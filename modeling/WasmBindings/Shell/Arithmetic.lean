import WasmBindings.Shell.Lexer

/-!
# Arithmetic expressions

Expressions over whole numbers of 64 bits, which wrap around. Variables are read from outside; what
an expression assigns is kept beside, so that later parts of it see the new values.
-/

namespace WasmBindings.Shell.Arithmetic

/-- A number in the range of 64 bits with a sign. -/
def wrap (n : Int) : Int := Int.bmod n 18446744073709551616

/-- The bits of a number. -/
def bitsOf (n : Int) : Nat := (n % 18446744073709551616).toNat

/-- Operators with two operands. -/
inductive Operator where
  | power | times | quotient | modulo | plus | minus | shiftLeft | shiftRight
  | less | lessEqual | greater | greaterEqual | equal | notEqual
  | bitAnd | bitXor | bitOr
  deriving DecidableEq, Repr

/-- An expression. -/
inductive Expression where
  | number (value : Int)
  | variable (name : List Char)
  | negative (operand : Expression)
  | complement (operand : Expression)
  | isZero (operand : Expression)
  | binary (operator : Operator) (first second : Expression)
  | both (first second : Expression)
  | either (first second : Expression)
  | choice (test yes no : Expression)
  | assign (name : List Char) (operator : Option Operator) (value : Expression)
  /-- Changes a variable by a number, and is its value after or before that. -/
  | step (name : List Char) (change : Int) (after : Bool)
  | sequence (first second : Expression)
  deriving Repr, Inhabited

/-- Why an expression has no value. -/
inductive Failure where
  | expecting (what : String)
  | divisionByZero
  | illegalNumber (text : List Char)
  deriving DecidableEq, Repr

/-! ## Reading -/

/-- The value of a number in decimal digits, or octal or hexadecimal ones after the usual marks; and
what follows it. -/
def number (s : List Char) : Nat × List Char :=
  match s with
  | '0' :: x :: c :: rest =>
    if (x = 'x' ∨ x = 'X') ∧ (Hex.value? c).isSome then
      let digits := (c :: rest).takeWhile fun c => (Hex.value? c).isSome
      (valueOfDigits 16 digits, (c :: rest).drop digits.length)
    else inBase (if x.isDigit then 8 else 10)
  | '0' :: _ => inBase 8
  | _ => inBase 10
where
  /-- Reads the digits in front. -/
  inBase (base : Nat) : Nat × List Char :=
    let digits := s.takeWhile fun c => c.isDigit && c.toNat - '0'.toNat < base
    (valueOfDigits base digits, s.drop digits.length)

/-- The number that a text spells as a whole, with blanks and a sign in front; the empty text is
zero. -/
def value? (s : List Char) : Option Int :=
  let s := s.dropWhile fun c => [' ', '\t', '\n'].contains c
  let (negative, s) := match s with
    | '-' :: rest => (true, rest)
    | '+' :: rest => (false, rest)
    | _ => (false, s)
  let (n, rest) := number s
  if rest.isEmpty then some (wrap (if negative then -(n : Int) else n)) else none

/-- Blanks in front are passed over. -/
def trimFront (s : List Char) : List Char := s.dropWhile fun c => [' ', '\t', '\n'].contains c

/-- The operators, each with its text and how closely it binds; longer texts come first. -/
def operators (extended : Bool) : List (List Char × Operator × Nat) :=
  (if extended then [(['*', '*'], .power, 11)] else []) ++
  [(['<', '<'], .shiftLeft, 7), (['>', '>'], .shiftRight, 7), (['<', '='], .lessEqual, 6),
    (['>', '='], .greaterEqual, 6), (['=', '='], .equal, 5), (['!', '='], .notEqual, 5),
    (['*'], .times, 9), (['/'], .quotient, 9), (['%'], .modulo, 9), (['+'], .plus, 8),
    (['-'], .minus, 8), (['<'], .less, 6), (['>'], .greater, 6), (['&'], .bitAnd, 4),
    (['^'], .bitXor, 3), (['|'], .bitOr, 2)]

/-- The operator at the front of a text, how closely it binds, and what follows it. The marks of
assignments and of the lazy operators are none. -/
def operator? (extended : Bool) (s : List Char) : Option (Operator × Nat × List Char) :=
  match (operators extended).find? fun (text, _) => text.isPrefixOf s with
  | some (text, operator, level) =>
    let rest := s.drop text.length
    let isLazy := (operator = .bitAnd ∧ rest.head? = some '&') ∨
      (operator = .bitOr ∧ rest.head? = some '|')
    let assigns := rest.head? = some '=' ∧
      !([.lessEqual, .greaterEqual, .equal, .notEqual, .less, .greater].contains operator)
    if isLazy ∨ assigns then none else some (operator, level, rest)
  | none => none

/-- The mark of an assignment at the front of a text, and what follows it. -/
def assignment? (s : List Char) : Option (Option Operator × List Char) :=
  match s with
  | '=' :: '=' :: _ => none
  | '=' :: rest => some (none, rest)
  | _ =>
    let assignable : List (List Char × Operator) :=
      [(['<', '<', '='], .shiftLeft), (['>', '>', '='], .shiftRight), (['*', '='], .times),
        (['/', '='], .quotient), (['%', '='], .modulo), (['+', '='], .plus), (['-', '='], .minus),
        (['&', '='], .bitAnd), (['^', '='], .bitXor), (['|', '='], .bitOr)]
    (assignable.find? fun (text, _) => text.isPrefixOf s).map fun (text, operator) =>
      (some operator, s.drop text.length)

/-- A reader of expressions. -/
abbrev Reading := Except Failure (Expression × List Char)

/-- What an expression can be the part of; each reads more than the one before. -/
inductive Level where
  | primary
  | operators (above : Nat)
  | conjunction
  | disjunction
  | choice
  | assignment
  | whole

/-- Reads an expression. The fuel bounds the number of steps. -/
def read (extended : Bool) : (fuel : Nat) → Level → List Char → Reading
  | 0, _, _ => .error (.expecting "primary")
  | fuel + 1, level, s =>
    let read := read extended fuel
    let s := trimFront s
    match level with
    | .whole => do
      let (first, rest) ← read .assignment s
      match extended, trimFront rest with
      | true, ',' :: rest =>
        let (second, rest) ← read .whole rest
        return (.sequence first second, rest)
      | _, rest => return (first, rest)
    | .assignment =>
      let name := if (s.head?.map startsName).getD false then s.takeWhile isNameChar else []
      match if name.isEmpty then none else assignment? (trimFront (s.drop name.length)) with
      | some (operator, rest) => do
        let (value, rest) ← read .assignment rest
        return (.assign name operator value, rest)
      | none => read .choice s
    | .choice => do
      let (test, rest) ← read .disjunction s
      match trimFront rest with
      | '?' :: rest =>
        let (yes, rest) ← read .assignment rest
        match trimFront rest with
        | ':' :: rest =>
          let (no, rest) ← read .choice rest
          return (.choice test yes no, rest)
        | _ => throw (.expecting "':'")
      | rest => return (test, rest)
    | .disjunction => do
      let (first, rest) ← read .conjunction s
      match trimFront rest with
      | '|' :: '|' :: rest =>
        let (second, rest) ← read .disjunction rest
        return (.either first second, rest)
      | rest => return (first, rest)
    | .conjunction => do
      let (first, rest) ← read (.operators 0) s
      match trimFront rest with
      | '&' :: '&' :: rest =>
        let (second, rest) ← read .conjunction rest
        return (.both first second, rest)
      | rest => return (first, rest)
    | .operators above => do
      let (first, rest) ← read .primary s
      more fuel above first rest
    | .primary =>
      match s with
      | '(' :: rest => do
        let (inner, rest) ← read .whole rest
        match trimFront rest with
        | ')' :: rest => return (inner, rest)
        | _ => throw (.expecting "')'")
      | '!' :: rest => unary read .isZero rest
      | '~' :: rest => unary read .complement rest
      | '+' :: rest =>
        match extended, stepped? rest '+' with
        | true, some (name, rest) => .ok (.step name 1 true, rest)
        | _, _ => unary read id rest
      | '-' :: rest =>
        match extended, stepped? rest '-' with
        | true, some (name, rest) => .ok (.step name (-1) true, rest)
        | _, _ => unary read .negative rest
      | c :: _ =>
        if c.isDigit then
          let (n, rest) := number s
          .ok (.number (wrap n), rest)
        else if startsName c then
          let name := s.takeWhile isNameChar
          let rest := s.drop name.length
          match extended, rest with
          | true, '+' :: '+' :: rest => .ok (.step name 1 false, rest)
          | true, '-' :: '-' :: rest => .ok (.step name (-1) false, rest)
          | _, rest => .ok (.variable name, rest)
        else .error (.expecting "primary")
      | [] => .error (.expecting "primary")
where
  /-- An operand after a sign. -/
  unary (read : Level → List Char → Reading) (sign : Expression → Expression) (s : List Char) :
      Reading := do
    let (operand, rest) ← read .primary s
    return (sign operand, rest)
  /-- A variable after a doubled sign. -/
  stepped? (s : List Char) (sign : Char) : Option (List Char × List Char) :=
    match s with
    | c :: rest =>
      let rest := trimFront rest
      let name := rest.takeWhile isNameChar
      if c = sign ∧ isName name then some (name, rest.drop name.length) else none
    | [] => none
  /-- The operators after a first operand that bind more closely than a given level. -/
  more : (fuel : Nat) → (above : Nat) → Expression → List Char → Reading
    | 0, _, first, rest => .ok (first, rest)
    | fuel + 1, above, first, rest =>
      match operator? extended (trimFront rest) with
      | some (operator, level, after) =>
        if level ≤ above then .ok (first, rest)
        else do
          let below := if operator = .power then level - 1 else level
          let (second, rest) ← read extended fuel (.operators below) after
          more fuel above (.binary operator first second) rest
      | none => .ok (first, rest)

/-- Reads a text as an expression. -/
def Expression.read (extended : Bool) (s : List Char) : Except Failure Expression := do
  if extended ∧ (trimFront s).isEmpty then return .number 0
  let (e, rest) ← Arithmetic.read extended (10 * s.length + 20) .whole s
  if (trimFront rest).isEmpty then return e else throw (.expecting "EOF")

/-! ## Values -/

/-- The number that a condition is. -/
def ofTruth (b : Bool) : Int := if b then 1 else 0

/-- The value of an operator. -/
def Operator.apply (operator : Operator) (a b : Int) : Except Failure Int :=
  let bitwise (f : Nat → Nat → Nat) : Except Failure Int := .ok (wrap (f (bitsOf a) (bitsOf b)))
  let places := bitsOf b % 64
  match operator with
  | .power => .ok (wrap ((List.replicate b.toNat a).foldl (fun p a => wrap (p * a)) 1))
  | .times => .ok (wrap (a * b))
  | .quotient => if b = 0 then .error .divisionByZero else .ok (wrap (Int.tdiv a b))
  | .modulo => if b = 0 then .error .divisionByZero else .ok (wrap (Int.tmod a b))
  | .plus => .ok (wrap (a + b))
  | .minus => .ok (wrap (a - b))
  | .shiftLeft => .ok (wrap (bitsOf a <<< places : Nat))
  | .shiftRight => .ok (wrap (a >>> places))
  | .less => .ok (ofTruth (a < b))
  | .lessEqual => .ok (ofTruth (a ≤ b))
  | .greater => .ok (ofTruth (b < a))
  | .greaterEqual => .ok (ofTruth (b ≤ a))
  | .equal => .ok (ofTruth (a = b))
  | .notEqual => .ok (ofTruth (a ≠ b))
  | .bitAnd => bitwise (· &&& ·)
  | .bitXor => bitwise (· ^^^ ·)
  | .bitOr => bitwise (· ||| ·)

/-- The variables that an expression has changed, the latest change first. -/
abbrev Changes := List (List Char × Int)

/-- The value of a variable, whose text comes from outside unless it was changed. -/
def valueOf (texts : List Char → List Char) (changes : Changes) (name : List Char) :
    Except Failure Int :=
  match changes.find? (·.1 = name) with
  | some (_, value) => .ok value
  | none =>
    let text := texts name
    match value? text with
    | some value => .ok value
    | none => .error (.illegalNumber text)

/-- The value of an expression, and the changes that it leaves. -/
def Expression.value (texts : List Char → List Char) (changes : Changes) :
    Expression → Except Failure (Int × Changes)
  | .number value => .ok (value, changes)
  | .variable name => do return (← valueOf texts changes name, changes)
  | .negative operand => do
    let (a, changes) ← operand.value texts changes
    return (wrap (-a), changes)
  | .complement operand => do
    let (a, changes) ← operand.value texts changes
    return (wrap (-a - 1), changes)
  | .isZero operand => do
    let (a, changes) ← operand.value texts changes
    return (ofTruth (a = 0), changes)
  | .binary operator first second => do
    let (a, changes) ← first.value texts changes
    let (b, changes) ← second.value texts changes
    return (← operator.apply a b, changes)
  | .both first second => do
    let (a, changes) ← first.value texts changes
    if a = 0 then return (0, changes)
    let (b, changes) ← second.value texts changes
    return (ofTruth (b ≠ 0), changes)
  | .either first second => do
    let (a, changes) ← first.value texts changes
    if a ≠ 0 then return (1, changes)
    let (b, changes) ← second.value texts changes
    return (ofTruth (b ≠ 0), changes)
  | .choice test yes no => do
    let (a, changes) ← test.value texts changes
    if a ≠ 0 then yes.value texts changes else no.value texts changes
  | .assign name operator value => do
    let (b, changes) ← value.value texts changes
    let result ← match operator with
      | some operator => do operator.apply (← valueOf texts changes name) b
      | none => pure b
    return (result, (name, result) :: changes)
  | .step name change after => do
    let a ← valueOf texts changes name
    let changed := wrap (a + change)
    return (if after then changed else a, (name, changed) :: changes)
  | .sequence first second => do
    let (_, changes) ← first.value texts changes
    second.value texts changes

/-- The wording of a failure in an expression. -/
def Failure.message (expression : List Char) : Failure → String
  | .expecting what =>
    "arithmetic expression: expecting " ++ what ++ ": \"" ++ String.ofList expression ++ "\""
  | .divisionByZero =>
    "arithmetic expression: division by zero: \"" ++ String.ofList expression ++ "\""
  | .illegalNumber text => "Illegal number: " ++ String.ofList text

/-- The value of a text as an expression, and the variables it changes. -/
def evaluate (extended : Bool) (texts : List Char → List Char) (s : List Char) :
    Except Failure (Int × Changes) := do
  (← Expression.read extended s).value texts []

end WasmBindings.Shell.Arithmetic
