import WasmBindings.Shell.Lines.Parts

/-!
# Replacing characters

The program that replaces, deletes and squeezes characters.
-/

namespace WasmBindings.Shell.Characters

open Lines (emitChars)

/-- The options of `tr`. -/
def translating : Usage :=
  { program := "tr", flags := "cCdst", strict := true
    long := [("complement", 'c'), ("delete", 'd'), ("squeeze-repeats", 's'),
      ("truncate-set1", 't')] }

/-- A piece of a set of characters. -/
inductive SetPiece where
  | chars (cs : List Char)
  /-- A character as often as is needed. -/
  | fill (c : Char)

/-- All characters that stand for bytes. -/
def allChars : List Char := (List.range 256).map Char.ofNat

/-- The character at the front of a set, and what follows it. -/
def setChar : List Char → Option (Char × List Char)
  | [] => none
  | '\\' :: c :: rest =>
    match letterEscape? c with
    | some plain => some (plain, rest)
    | none =>
      match ((c :: rest).take 3).takeWhile isOctal with
      | [] => some (c, rest)
      | digits =>
        some (Char.ofNat (valueOfDigits 8 digits % 256), (c :: rest).drop digits.length)
  | c :: rest => some (c, rest)

/-- Reads a set of characters. The fuel bounds the number of characters. -/
def setPieces : (fuel : Nat) → List Char → Except String (List SetPiece)
  | 0, _ | _, [] => .ok []
  | fuel + 1, '[' :: ':' :: rest => do
    let name := rest.takeWhile Char.isAlpha
    match rest.drop name.length with
    | ':' :: ']' :: rest =>
      let members := allChars.filter (Glob.isInClass name)
      if members.isEmpty then throw s!"invalid character class '{String.ofList name}'"
      return .chars members :: (← setPieces fuel rest)
    | _ => return .chars ['['] :: (← setPieces fuel (':' :: rest))
  | fuel + 1, '[' :: '=' :: c :: '=' :: ']' :: rest => do
    return .chars [c] :: (← setPieces fuel rest)
  | fuel + 1, text => do
    let repeated? : Option (Char × List Char × List Char) := match text with
      | '[' :: rest =>
        match setChar rest with
        | some (c, '*' :: rest) =>
          let digits := rest.takeWhile Char.isDigit
          match rest.drop digits.length with
          | ']' :: rest => some (c, digits, rest)
          | _ => none
        | _ => none
      | _ => none
    match repeated?, setChar text with
    | some (c, digits, rest), _ =>
      let count := valueOfDigits (if digits.head? = some '0' then 8 else 10) digits
      let piece := if count = 0 then SetPiece.fill c else .chars (List.replicate count c)
      return piece :: (← setPieces fuel rest)
    | none, none => return []
    | none, some (first, '-' :: rest) =>
      match setChar rest with
      | none => return .chars [first, '-'] :: (← setPieces fuel rest)
      | some (last, rest) =>
        if last < first then
          throw (s!"range-endpoints of '{first}-{last}' are in reverse " ++
            "collating sequence order")
        let members := (List.range (last.toNat + 1 - first.toNat)).map fun n =>
          Char.ofNat (first.toNat + n)
        return .chars members :: (← setPieces fuel rest)
    | none, some (c, rest) => return .chars [c] :: (← setPieces fuel rest)

/-- The characters of a set in which what is repeated as needed fills it up to a size. -/
def setMembers (size : Nat) (pieces : List SetPiece) : List Char :=
  let fixed := (pieces.map fun
    | .chars cs => cs.length
    | .fill _ => 0).foldl (· + ·) 0
  pieces.flatMap fun
    | .chars cs => cs
    | .fill c => List.replicate (size - fixed) c

/-- Text without repetitions of some characters. -/
def squeeze (set : Char → Bool) : List Char → List Char
  | a :: b :: rest =>
    if a = b ∧ set a then squeeze set (b :: rest) else a :: squeeze set (b :: rest)
  | rest => rest

/-- Replaces, removes or squeezes characters. -/
def tr : Program := translating.run fun settings operands s =>
  let u := translating
  let deletes := given settings "d"
  let squeezes := given settings "s"
  let sets := operands.mapM fun w => setPieces (w.length + 1) w.toList
  match operands, sets with
  | _, .error text => s.complain s!"tr: {text}" 1
  | [], _ => u.refuse s "missing operand"
  | [one], .ok [first] =>
    if deletes = squeezes then
      if deletes then
        u.refuse s (s!"missing operand after '{one}'\n" ++
          "Two strings must be given when both deleting and squeezing repeats.")
      else
        u.refuse s (s!"missing operand after '{one}'\n" ++
          "Two strings must be given when translating.")
    else
      let members := setMembers 0 first
      let isIn (c : Char) : Bool := members.contains c != given settings "cC"
      let (bytes, s) := s.readInput
      let text := charsOf bytes
      emitChars s (if deletes then text.filter fun c => !isIn c else squeeze isIn text)
  | [_, two], .ok [first, second] =>
    let members := setMembers 0 first
    let complemented := given settings "cC"
    let members := if complemented then allChars.filter fun c => !members.contains c else members
    let others := setMembers members.length second
    if deletes ∧ !squeezes then
      u.refuse s (s!"extra operand '{two}'\n" ++
        "Only one string may be given when deleting without squeezing repeats.")
    else
      let (bytes, s) := s.readInput
      let text := charsOf bytes
      if deletes then
        emitChars s (squeeze others.contains (text.filter fun c => !members.contains c))
      else if others.isEmpty ∧ !given settings "t" then
        s.complain "tr: when not truncating set1, string2 must be non-empty" 1
      else
        let members := if given settings "t" then members.take others.length else members
        let last := others.getLast?.getD ' '
        let pairs := members.zip (others ++ List.replicate (members.length - others.length) last)
        let translate (c : Char) : Char := match pairs.reverse.find? (·.1 = c) with
          | some (_, d) => d
          | none => c
        let text := text.map translate
        emitChars s (if squeezes then squeeze others.contains text else text)
  | _ :: _ :: extra :: _, _ => u.refuse s s!"extra operand '{extra}'"
  | _, _ => u.refuse s "missing operand"

end WasmBindings.Shell.Characters
