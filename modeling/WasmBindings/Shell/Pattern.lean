import WasmBindings.Sandbox.FileTree

/-!
# Patterns

A pattern is written as text in which a star stands for any text, a question mark for any character,
and square brackets for one of some characters. Quoted characters stand for themselves. Patterns
choose branches, take pieces off values, and stand for the names of files.
-/

namespace WasmBindings.Shell

/-- A character of an expanded word, and whether it may have a meaning of its own. -/
abbrev Marked := Char × Bool

/-- What a bracket may stand for. -/
inductive SetItem where
  | range (first last : Char)
  | named (name : List Char)
  deriving DecidableEq, Repr

/-- A piece of a pattern. -/
inductive Glob where
  | char (c : Char)
  | anyChar
  | anyText
  | set (negated : Bool) (items : List SetItem)
  deriving DecidableEq, Repr

namespace Glob

/-- Whether a character belongs to a class of characters that has a name. -/
def isInClass (name : List Char) (c : Char) : Bool :=
  let n := c.toNat
  let isPunctuation := 33 ≤ n && n < 127 && !c.isAlphanum
  match String.ofList name with
  | "alpha" => c.isAlpha
  | "digit" => c.isDigit
  | "alnum" => c.isAlphanum
  | "upper" => c.isUpper
  | "lower" => c.isLower
  | "space" => [' ', '\t', '\n', '\r', '\x0b', '\x0c'].contains c
  | "blank" => [' ', '\t'].contains c
  | "punct" => isPunctuation
  | "print" => 32 ≤ n && n < 127
  | "graph" => 33 ≤ n && n < 127
  | "cntrl" => n < 32 || n = 127
  | "xdigit" => (Hex.value? c).isSome
  | _ => false

/-- Whether an item of a bracket stands for a character. -/
def SetItem.holds (c : Char) : SetItem → Bool
  | .range first last => first ≤ c && c ≤ last
  | .named name => isInClass name c

/-- Whether a piece that stands for one character stands for this one. -/
def isFor (c : Char) : Glob → Bool
  | char a => a = c
  | anyChar => true
  | anyText => false
  | set negated items => items.any (SetItem.holds c) != negated

/-- The name of a class at the front of a bracket's items, and what follows it. -/
def className? : List Marked → Option (List Char × List Marked)
  | ('[', true) :: (':', true) :: rest =>
    let name := (rest.map (·.1)).takeWhile Char.isAlpha
    match rest.drop name.length with
    | (':', true) :: (']', true) :: rest => some (name, rest)
    | _ => none
  | _ => none

/-- The items of a bracket up to its end, and what follows it. A bracket that closes at the very
front is an item. The fuel bounds the number of characters. -/
def items? (front : Bool) : (fuel : Nat) → List Marked → Option (List SetItem × List Marked)
  | 0, _ | _, [] => none
  | fuel + 1, (c, active) :: rest => do
    if c = ']' ∧ active ∧ !front then return ([], rest)
    if let some (name, rest) := className? ((c, active) :: rest) then
      let (items, rest) ← items? false fuel rest
      return (.named name :: items, rest)
    match rest with
    | ('-', true) :: (last, lastActive) :: after =>
      if last = ']' ∧ lastActive then
        let (items, rest) ← items? false fuel rest
        return (.range c c :: items, rest)
      else
        let (items, rest) ← items? false fuel after
        return (.range c last :: items, rest)
    | rest =>
      let (items, rest) ← items? false fuel rest
      return (.range c c :: items, rest)

/-- The set that a bracket stands for, and what follows it; `negations` are the characters that turn
it round. -/
def set? (negations : List Char) (text : List Marked) : Option (Glob × List Marked) :=
  match text with
  | (c, true) :: rest =>
    if negations.contains c then
      (items? true (rest.length + 1) rest).map fun (items, rest) => (set true items, rest)
    else (items? true (text.length + 1) text).map fun (items, rest) => (set false items, rest)
  | _ => (items? true (text.length + 1) text).map fun (items, rest) => (set false items, rest)

/-- The pattern that some text is. The fuel bounds the number of characters. -/
def read (negations : List Char) : (fuel : Nat) → List Marked → List Glob
  | 0, _ | _, [] => []
  | fuel + 1, ('*', true) :: rest => anyText :: read negations fuel rest
  | fuel + 1, ('?', true) :: rest => anyChar :: read negations fuel rest
  | fuel + 1, ('[', true) :: rest =>
    match set? negations rest with
    | some (glob, rest) => glob :: read negations fuel rest
    | none => char '[' :: read negations fuel rest
  | fuel + 1, (c, _) :: rest => char c :: read negations fuel rest

/-- The pattern that some text is. -/
def ofMarked (negations : List Char) (text : List Marked) : List Glob :=
  read negations (text.length + 1) text

/-- Whether a text fits a pattern. -/
def fits : List Glob → List Char → Bool
  | [], text => text.isEmpty
  | .anyText :: globs, [] => fits globs []
  | .anyText :: globs, c :: text => fits globs (c :: text) || fits (.anyText :: globs) text
  | _ :: _, [] => false
  | glob :: globs, c :: text => glob.isFor c && fits globs text
termination_by globs text => globs.length + text.length

/-! ## Taking pieces off -/

/-- The first of some lengths at which the front of a text, or what follows it, fits. -/
def cutAt? (globs : List Glob) (atEnd : Bool) (text : List Char) (lengths : List Nat) :
    Option Nat :=
  lengths.find? fun n => fits globs (if atEnd then text.drop n else text.take n)

/-- A text without the shortest or longest piece that fits, at its front or end. -/
def trim (globs : List Glob) (atEnd longest : Bool) (text : List Char) : List Char :=
  let up := List.range (text.length + 1)
  match cutAt? globs atEnd text (if atEnd = longest then up else up.reverse) with
  | some n => if atEnd then text.take n else text.drop n
  | none => text

/-- The length of the longest piece at the front of a text that fits, if there is one that is not
empty. -/
def longestAtFront? (globs : List Glob) (text : List Char) : Option Nat :=
  ((List.range text.length).map (· + 1)).reverse.find? fun n => fits globs (text.take n)

/-- A text with another in the place of each piece that fits, or of the first one. -/
def replace (globs : List Glob) (replacement : List Char) (everywhere : Bool) :
    (fuel : Nat) → List Char → List Char
  | 0, text => text
  | _, [] => []
  | fuel + 1, c :: text =>
    match longestAtFront? globs (c :: text) with
    | some n =>
      let rest := (c :: text).drop n
      replacement ++ if everywhere then replace globs replacement true fuel rest else rest
    | none => c :: replace globs replacement everywhere fuel text

/-! ## Names of files -/

/-- Whether a character can make a text a pattern. -/
def isMagic (m : Marked) : Bool := m.2 && ['*', '?', '['].contains m.1

/-- Cuts a marked path at its slashes. -/
def splitMarked : List Marked → List (List Marked)
  | [] => [[]]
  | m :: rest =>
    match splitMarked rest with
    | [] => [[m]]
    | piece :: pieces => if m.1 = '/' then [] :: piece :: pieces else (m :: piece) :: pieces

/-- The names in a directory that fit; names with a dot in front have to be asked for. -/
def namesThatFit (t : FileTree) (directory : Place) (path : String) (globs : List Glob) :
    List String :=
  let place? := t.resolve directory (Octet.toPath (if path.isEmpty then "." else path))
  match place? with
  | .error _ => []
  | .ok place =>
    if t.find? place ≠ some .directory then []
    else
      let names := [".", ".."] ++ (t.names place).map Octet.ofText
      names.filter fun name =>
        (name.toList.head? ≠ some '.' || globs.head? = some (.char '.')) &&
          fits globs name.toList

/-- The paths that a pattern stands for, segment by segment, after the path begun before it. -/
def pathsThatFit (negations : List Char) (t : FileTree) (directory : Place) :
    (before : String) → List (List Marked) → List String
  | before, [] => [before]
  | before, segment :: rest =>
    let ending := if rest.isEmpty then "" else "/"
    if segment.any isMagic then
      (namesThatFit t directory before (ofMarked negations segment)).flatMap fun name =>
        let path := before ++ name
        if rest.isEmpty then [path]
        else if t.isDirectory directory (Octet.toPath path) then
          pathsThatFit negations t directory (path ++ ending) rest
        else []
    else
      let path := before ++ String.ofList (segment.map (·.1))
      if !rest.isEmpty then pathsThatFit negations t directory (path ++ ending) rest
      else if (t.node directory (Octet.toPath path) false).toOption.isSome then [path]
      else []

/-- The names of files that a field stands for; a field that is no pattern, or that nothing fits,
stands for itself. -/
def expand (negations : List Char) (t : FileTree) (directory : Place) (field : List Marked) :
    List String :=
  let itself := String.ofList (field.map (·.1))
  if !field.any isMagic then [itself]
  else
    match pathsThatFit negations t directory "" (splitMarked field) with
    | [] => [itself]
    | paths => paths.mergeSort fun a b => Octet.precedes a.toList b.toList

end Glob

end WasmBindings.Shell
