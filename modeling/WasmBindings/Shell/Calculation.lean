import WasmBindings.Shell.Program
import WasmBindings.Shell.Regex

/-!
# Calculation with words

The program that takes an expression word by word and prints its value. Every value is a text; some
texts are numbers. An operand that decides nothing is not computed.
-/

namespace WasmBindings.Shell.Calculation

/-- An operator between two operands. -/
inductive Operator where
  | or | and
  | less | lessEqual | equal | unequal | greaterEqual | greater
  | plus | minus | times | quotient | remainder
  | fits
  deriving DecidableEq, Repr

/-- An expression. -/
inductive Expression where
  | text (value : String)
  | binary (operator : Operator) (left right : Expression)
  | length (operand : Expression)
  | index (text characters : Expression)
  | substring (text position length : Expression)
  deriving Repr, Inhabited

/-! ## Values -/

/-- The number that a text is. -/
def integer? (text : String) : Option Int :=
  let digits (cs : List Char) : Option Int :=
    if !cs.isEmpty ∧ cs.all Char.isDigit then some (valueOfDigits 10 cs) else none
  match text.toList with
  | '-' :: rest => (digits rest).map (- ·)
  | rest => digits rest

/-- Whether a value counts as false: it is empty, or a zero. -/
def isNull (text : String) : Bool := text.isEmpty || integer? text = some 0

/-- What is wrong with a computation. -/
inductive Fault where
  | noNumber
  | zeroDivisor
  | expression (fault : Regex.Fault)

/-- What is said about a fault. -/
def Fault.message : Fault → String
  | noNumber => "non-integer argument"
  | zeroDivisor => "division by zero"
  | expression fault => fault.message

/-- The number that a value has to be. -/
def asNumber (text : String) : Except Fault Int :=
  match integer? text with
  | some n => .ok n
  | none => .error .noNumber

/-- Whether a comparison holds between two values: between numbers if both are, or else between
texts. -/
def compare (numbers : Int → Int → Bool) (texts : List Char → List Char → Bool) (a b : String) :
    String :=
  let truth := match integer? a, integer? b with
    | some x, some y => numbers x y
    | _, _ => texts a.toList b.toList
  if truth then "1" else "0"

/-- What the front of a text gives when it fits an expression: the first group, or the length. -/
def fitting (text pattern : String) : Except Fault String :=
  match Regex.read {} pattern.toList with
  | .error fault => .error (.expression fault)
  | .ok r =>
    let characters := text.toList.toArray
    let hasGroup := (pattern.splitOn "\\(").length ≠ 1
    match Regex.matchAt? {} r characters 0 with
    | some found =>
      .ok (if hasGroup then String.ofList (found.group characters 1) else toString found.stop)
    | none => .ok (if hasGroup then "" else "0")

/-- The value of an operation. -/
def Operator.apply (operator : Operator) (a b : String) : Except Fault String := do
  let arithmetic (compute : Int → Int → Int) : Except Fault String := do
    return toString (compute (← asNumber a) (← asNumber b))
  let divided (compute : Int → Int → Int) : Except Fault String := do
    let x ← asNumber a
    let y ← asNumber b
    if y = 0 then throw .zeroDivisor
    return toString (compute x y)
  let before := Octet.precedes
  match operator with
  | or => return if !isNull a then a else if !isNull b then b else "0"
  | and => return if isNull a ∨ isNull b then "0" else a
  | less => return compare (· < ·) (fun x y => before x y && x != y) a b
  | lessEqual => return compare (· ≤ ·) before a b
  | equal => return compare (· == ·) (· == ·) a b
  | unequal => return compare (· != ·) (· != ·) a b
  | greaterEqual => return compare (· ≥ ·) (fun x y => before y x) a b
  | greater => return compare (· > ·) (fun x y => before y x && x != y) a b
  | plus => arithmetic (· + ·)
  | minus => arithmetic (· - ·)
  | times => arithmetic (· * ·)
  | quotient => divided Int.tdiv
  | remainder => divided Int.tmod
  | fits => fitting a b

/-- The value of an expression. -/
def Expression.value : Expression → Except Fault String
  | text value => .ok value
  | binary operator left right => do
    let a ← left.value
    if (operator = .or ∧ !isNull a) ∨ (operator = .and ∧ isNull a) then operator.apply a ""
    else operator.apply a (← right.value)
  | length operand => return toString (← operand.value).length
  | index inner characters => do
    let text := (← inner.value).toList
    let wanted := (← characters.value).toList
    return toString ((text.findIdx? wanted.contains).elim 0 (· + 1))
  | substring inner position size => do
    let text := (← inner.value).toList
    match integer? (← position.value), integer? (← size.value) with
    | some start, some size =>
      if start ≤ 0 ∨ size ≤ 0 then return ""
      else return String.ofList ((text.drop (start.toNat - 1)).take size.toNat)
    | _, _ => return ""

/-! ## Reading -/

/-- How far the words have been read: those that are left, and the last one that was read. -/
structure Source where
  rest : List String
  last : String := ""

/-- A reader of expressions. -/
abbrev Reading := StateT Source (Except String)

/-- A name in quotes. -/
def quoted (text : String) : String := "'" ++ text ++ "'"

/-- The words are no expression. -/
def malformed {α : Type} (text : String) : Reading α := throw ("syntax error: " ++ text)

/-- Takes the next word. -/
def word : Reading String := do
  let s ← get
  match s.rest with
  | [] => malformed ("missing argument after " ++ quoted s.last)
  | next :: rest =>
    set ({ rest, last := next } : Source)
    return next

/-- Passes over the next word if it is one of some; says which it is. -/
def accept {α : Type} (words : List (String × α)) : Reading (Option α) := do
  match (← get).rest with
  | [] => return none
  | next :: _ =>
    match words.find? (·.1 = next) with
    | some (_, value) =>
      let _ ← word
      return some value
    | none => return none

/-- The operators by how tightly they bind, the loosest first. -/
def levels : List (List (String × Operator)) :=
  [[("|", .or)], [("&", .and)],
    [("<", .less), ("<=", .lessEqual), ("=", .equal), ("==", .equal), ("!=", .unequal),
      (">=", .greaterEqual), (">", .greater)],
    [("+", .plus), ("-", .minus)], [("*", .times), ("/", .quotient), ("%", .remainder)],
    [(":", .fits)]]

/-- Reads the operands that follow operators of a level. The fuel bounds their number. -/
def chain (operators : List (String × Operator)) (operand : Reading Expression) :
    (fuel : Nat) → Expression → Reading Expression
  | 0, left => return left
  | fuel + 1, left => do
    match ← accept operators with
    | some operator => chain operators operand fuel (.binary operator left (← operand))
    | none => return left

/-- Reads an expression in which the operators of some levels may stand. -/
def leveled (base : Reading Expression) : List (List (String × Operator)) → Reading Expression
  | [] => base
  | operators :: tighter => do
    let first ← leveled base tighter
    chain operators (leveled base tighter) ((← get).rest.length + 1) first

/-- Reads an operand. The fuel bounds how deep expressions nest. -/
def operand : (fuel : Nat) → Reading Expression
  | 0 => malformed "too deep"
  | fuel + 1 => do
    match ← word with
    | "+" => .text <$> word
    | "length" => .length <$> operand fuel
    | "match" => return .binary .fits (← operand fuel) (← operand fuel)
    | "index" => return .index (← operand fuel) (← operand fuel)
    | "substr" => return .substring (← operand fuel) (← operand fuel) (← operand fuel)
    | ")" => malformed ("unexpected " ++ quoted ")")
    | "(" =>
      let inner ← leveled (operand fuel) levels
      let s ← get
      match s.rest with
      | [] => malformed ("expecting " ++ quoted ")" ++ " after " ++ quoted s.last)
      | ")" :: _ =>
        let _ ← word
        return inner
      | next :: _ => malformed ("expecting " ++ quoted ")" ++ " instead of " ++ quoted next)
    | text => return .text text

/-- Reads some words as an expression; tells what is wrong with them, if something is. -/
def Expression.read (words : List String) : Except String Expression := do
  let (e, s) ← (leveled (operand (words.length + 1)) levels).run { rest := words }
  match s.rest with
  | [] => return e
  | next :: _ => throw ("syntax error: unexpected argument " ++ quoted next)

/-- The options of the program, of which there are none. -/
def calculating : Usage := { program := "expr", status := 2 }

/-- Prints the value of an expression; the status says whether the value counts as false. -/
def expr : Program := fun words s =>
  let s := s.done 0
  match if words.head? = some "--" then words.drop 1 else words with
  | [] => calculating.refuse s "missing operand"
  | words =>
    match Expression.read words with
    | .error text => s.complain ("expr: " ++ text) 2
    | .ok e =>
      match e.value with
      | .error fault => s.complain ("expr: " ++ fault.message) 2
      | .ok text => (s.emitLine text).done (if isNull text then 1 else 0)

end WasmBindings.Shell.Calculation
