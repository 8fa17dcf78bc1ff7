import WasmBindings.Shell.Syntax
import WasmBindings.Shell.Lexer

/-!
# Braces

In the extended dialect a word with braces stands for several words: one for each of the texts
between the braces that are separated by commas, or for each step of a range.
-/

namespace WasmBindings.Shell.Braces

/-- A word as a row of characters that are not quoted and of other parts. -/
abbrev Row := List (Sum Char Part)

/-- The row of a word. -/
def ofWord (word : Word) : Row :=
  word.flatMap fun
    | .literal text false => text.map .inl
    | part => [.inr part]

/-- The word of a row. -/
def toWord (row : Row) : Word :=
  row.foldr (fun item word =>
    match item with
    | .inl c => joinPart (.literal [c] false) word
    | .inr part => joinPart part word) []

/-- What stands between braces up to the closing one, cut at commas, and what follows. The pieces
come with the one that is being read first. -/
def body (depth : Nat) : Row → Option (List Row × Row)
  | [] => none
  | item :: rest =>
    let isClosing := item matches .inl '\x7d'
    let isComma := item matches .inl ','
    let isOpening := item matches .inl '\x7b'
    if isClosing && depth == 0 then some ([[]], rest)
    else
      let depth := if isOpening then depth + 1 else if isClosing then depth - 1 else depth
      match body depth rest with
      | some (piece :: pieces, after) =>
        if isComma && depth == 0 then some ([] :: piece :: pieces, after)
        else some ((item :: piece) :: pieces, after)
      | _ => none

/-- The texts of a range of numbers or letters. -/
def range? (row : Row) : Option (List Row) := do
  let text ← row.mapM fun
    | .inl c => some c
    | .inr _ => none
  match (String.ofList text).splitOn ".." with
  | [first, last] =>
    match first.toInt?, last.toInt? with
    | some a, some b =>
      let count := (b - a).natAbs + 1
      return (List.range count).map fun (n : Nat) =>
        let value : Int := if a ≤ b then a + n else a - n
        (toString value).toList.map .inl
    | _, _ =>
      match first.toList, last.toList with
      | [a], [b] =>
        let count := (Int.ofNat b.toNat - a.toNat).natAbs + 1
        if !a.isAlpha ∨ !b.isAlpha then none
        else
          return (List.range count).map fun (n : Nat) =>
            [.inl (Char.ofNat (if a.toNat ≤ b.toNat then a.toNat + n else a.toNat - n))]
      | _, _ => none
  | _ => none

/-- The rows that a row stands for. The fuel bounds the number of steps. -/
def expandRow : (fuel : Nat) → Row → List Row
  | 0, row => [row]
  | _, [] => [[]]
  | fuel + 1, item :: rest =>
    let alone (_ : Unit) : List Row := (expandRow fuel rest).map (item :: ·)
    if !(item matches .inl '\x7b') then alone ()
    else
      match body 0 rest with
      | none => alone ()
      | some (pieces, after) =>
        let choices? := match pieces with
          | [one] => range? one
          | pieces => some (pieces.flatMap (expandRow fuel))
        match choices? with
        | none => alone ()
        | some choices =>
          let endings := expandRow fuel after
          choices.flatMap fun choice => endings.map (choice ++ ·)

/-- The words that a word stands for. -/
def expand (word : Word) : List Word :=
  let row := ofWord word
  if row.any (· matches .inl '\x7b') then (expandRow (row.length + 1) row).map toWord else [word]

end WasmBindings.Shell.Braces
