import WasmBindings.Shell.Arithmetic
import WasmBindings.Shell.State

/-!
# Conditions

Conditions on texts, numbers and files. A condition is a row of words: terms that are joined by `-a`
and `-o`, of which `-a` binds more closely, negated by `!`, and grouped by brackets. Whether a word
is an operator depends on its neighbours.
-/

namespace WasmBindings.Shell.Condition

/-- A question about one operand. -/
inductive Question where
  | isEmpty | isNotEmpty | isTerminal
  | isPresent | isFile | isDirectory | isExecutable | isFilled | isLink | isDevice | never
  deriving DecidableEq, Repr

/-- A comparison of two operands. -/
inductive Comparison where
  | same | different | before | behind
  | equal | notEqual | less | lessEqual | greater | greaterEqual
  | newer | older | identical
  deriving DecidableEq, Repr

/-- What a word can be if its neighbours allow it. -/
inductive Operator where
  | ask (question : Question)
  | compare (comparison : Comparison)
  | both
  | either
  | negation
  | opening
  | closing
  deriving DecidableEq, Repr

/-- The operator that a word is. -/
def operator? (dialect : Dialect) (word : String) : Option Operator :=
  match word with
  | "-z" => some (.ask .isEmpty)
  | "-n" => some (.ask .isNotEmpty)
  | "-t" => some (.ask .isTerminal)
  | "-e" | "-r" | "-w" | "-O" | "-G" => some (.ask .isPresent)
  | "-f" => some (.ask .isFile)
  | "-d" => some (.ask .isDirectory)
  | "-x" => some (.ask .isExecutable)
  | "-s" => some (.ask .isFilled)
  | "-L" | "-h" => some (.ask .isLink)
  | "-c" => some (.ask .isDevice)
  | "-b" | "-p" | "-S" | "-g" | "-u" | "-k" => some (.ask .never)
  | "=" => some (.compare .same)
  | "==" => if dialect = .extended then some (.compare .same) else none
  | "!=" => some (.compare .different)
  | "<" => some (.compare .before)
  | ">" => some (.compare .behind)
  | "-eq" => some (.compare .equal)
  | "-ne" => some (.compare .notEqual)
  | "-lt" => some (.compare .less)
  | "-le" => some (.compare .lessEqual)
  | "-gt" => some (.compare .greater)
  | "-ge" => some (.compare .greaterEqual)
  | "-nt" => some (.compare .newer)
  | "-ot" => some (.compare .older)
  | "-ef" => some (.compare .identical)
  | "-a" => some .both
  | "-o" => some .either
  | "!" => some .negation
  | "(" => some .opening
  | ")" => some .closing
  | _ => none

/-- The answer to a question. -/
def Question.answer (s : State) (question : Question) (operand : String) : Bool :=
  let node := (s.node operand).toOption
  match question with
  | .isEmpty => operand = ""
  | .isNotEmpty => operand ≠ ""
  | .isTerminal | .never => false
  | .isPresent => node.isSome
  | .isFile => (node matches some (.file ..) | some (.program _))
  | .isDirectory => node.any (·.isDirectory)
  | .isExecutable => node.any fun n => n.isExecutable || n.isDirectory
  | .isFilled => match node with
    | some (.file contents _) => !contents.isEmpty
    | some .directory | some (.program _) => true
    | _ => false
  | .isLink => ((s.node operand false).toOption matches some (.link _))
  | .isDevice => (node matches some .sink)

/-- The number that an operand is. -/
def number (s : State) (operand : String) : Except String Int :=
  let text := operand.toList
  let blank (c : Char) : Bool := [' ', '\t', '\n'].contains c
  let body := ((text.dropWhile blank).reverse.dropWhile blank).reverse
  let (negative, digits) := match body with
    | '-' :: rest => (true, rest)
    | '+' :: rest => (false, rest)
    | _ => (false, body)
  if !digits.isEmpty ∧ digits.all Char.isDigit then
    let n : Int := valueOfDigits 10 digits
    .ok (if negative then -n else n)
  else
    match s.dialect with
    | .plain => .error ("Illegal number: " ++ operand)
    | .extended => .error (operand ++ ": integer expression expected")

/-- The outcome of a comparison. -/
def Comparison.holds (s : State) (comparison : Comparison) (a b : String) : Except String Bool :=
  let numbers (holds : Int → Int → Bool) : Except String Bool := do
    return holds (← number s a) (← number s b)
  match comparison with
  | .same => .ok (a = b)
  | .different => .ok (a ≠ b)
  | .before => .ok (a ≠ b && Octet.precedes a.toList b.toList)
  | .behind => .ok (a ≠ b && Octet.precedes b.toList a.toList)
  | .equal => numbers (· = ·)
  | .notEqual => numbers (· ≠ ·)
  | .less => numbers (· < ·)
  | .lessEqual => numbers (· ≤ ·)
  | .greater => numbers (fun x y => y < x)
  | .greaterEqual => numbers (fun x y => y ≤ x)
  | .newer => .ok ((s.node a).toOption.isSome && (s.node b).toOption.isNone)
  | .older => .ok ((s.node a).toOption.isNone && (s.node b).toOption.isSome)
  | .identical => .ok (match s.placeOf a, s.placeOf b with
    | .ok x, .ok y => x = y && (s.node a).toOption.isSome
    | _, _ => false)

/-! ## Reading a condition -/

/-- The operator that the first of some words is, given the words after it. A question with nothing
to ask about, or in front of a comparison, is an operand. -/
def leading? (d : Dialect) : List String → Option Operator
  | [] => none
  | word :: rest =>
    match operator? d word with
    | some (.ask question) =>
      match rest with
      | [] => none
      | [_] => some (.ask question)
      | next :: _ =>
        match operator? d next with
        | some (.compare _) => none
        | _ => some (.ask question)
    | some .opening => if rest.isEmpty then none else some .opening
    | other => other

/-- How a condition is read: alternatives, all of several, one that may be negated, or a term. -/
inductive Level where
  | alternatives | conjunction | negation | term

/-- An error with the word it is about in front. -/
def about (word message : String) : String := word ++ ": " ++ message

/-- Reads a condition: its truth and the words after it. The fuel bounds the number of steps. -/
def read (s : State) : (fuel : Nat) → Level → List String → Except String (Bool × List String)
  | 0, _, _ => .error "too many arguments"
  | fuel + 1, level, words =>
    let read := read s fuel
    let leading := leading? s.dialect
    match level with
    | .alternatives => do
      let (truth, rest) ← read .conjunction words
      if leading rest = some .either then
        let (other, rest) ← read .alternatives (rest.drop 1)
        return (truth || other, rest)
      else return (truth, rest)
    | .conjunction => do
      let (truth, rest) ← read .negation words
      if leading rest = some .both then
        let (other, rest) ← read .conjunction (rest.drop 1)
        return (truth && other, rest)
      else return (truth, rest)
    | .negation =>
      if leading words = some .negation then
        if words.length = 1 then .ok (true, [])
        else do
          let (truth, rest) ← read .negation (words.drop 1)
          return (!truth, rest)
      else read .term words
    | .term =>
      match words with
      | [] => .ok (false, [])
      | word :: rest =>
        match leading words with
        | some .opening => do
          let (truth, rest) ← read .alternatives rest
          if leading rest = some .closing then return (truth, rest.drop 1)
          else throw "closing paren expected"
        | some (.ask question) =>
          match rest with
          | operand :: rest => .ok (question.answer s operand, rest)
          | [] => .error (about word "argument expected")
        | _ =>
          match rest with
          | operator :: operands =>
            match operator? s.dialect operator, operands with
            | some (.compare comparison), b :: rest => do
              return (← comparison.holds s word b, rest)
            | some (.compare _), [] => .error (about operator "argument expected")
            | _, _ => .ok (word ≠ "", rest)
          | [] => .ok (word ≠ "", [])

/-- The truth of a condition, or what is wrong with it. Three words with a comparison in the middle
are that comparison, whatever the others are; four words that begin with a negation are one. -/
def truth (s : State) (words : List String) : Except String Bool :=
  match words with
  | [] => .ok false
  | [a, operator, b] =>
    match operator? s.dialect operator with
    | some (.compare comparison) => comparison.holds s a b
    | _ => bracketed words
  | [_, _, _, _] => bracketed words
  | _ => whole words
where
  /-- A condition that takes all words. -/
  whole (words : List String) : Except String Bool := do
    let (truth, rest) ← read s (10 * words.length + 10) .alternatives words
    if rest.isEmpty then return truth
    match s.dialect with
    | .plain =>
      let last := words[words.length - rest.length - 1]?.getD ""
      throw (about last "unexpected operator")
    | .extended => throw "too many arguments"
  /-- A condition that may stand in brackets or be negated as a whole. -/
  bracketed (words : List String) : Except String Bool :=
    match words with
    | "!" :: rest =>
      match rest with
      | [a, operator, b] =>
        match operator? s.dialect operator with
        | some (.compare comparison) => do return !(← comparison.holds s a b)
        | _ => do return !(← whole rest)
      | _ => do return !(← whole rest)
    | "(" :: rest =>
      if rest.getLast? = some ")" then whole rest.dropLast else whole words
    | _ => whole words

end WasmBindings.Shell.Condition
