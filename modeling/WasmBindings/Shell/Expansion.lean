import WasmBindings.Shell.Arithmetic
import WasmBindings.Shell.Session

/-!
# Expansion

A word is expanded part by part into pieces. Pieces that come from values are cut into fields at the
separators, and fields that are patterns stand for the names of files. In some places a word is one
text, or a pattern, and is not cut.
-/

namespace WasmBindings.Shell

/-- A piece of an expanded word. -/
inductive Piece where
  /-- Text, which may be quoted, or else may be cut into fields. -/
  | text (characters : List Char) (quoted splits : Bool)
  /-- The border between two fields. -/
  | border
  deriving Repr

namespace Piece

/-- The characters of a piece; others stand in the place of a border. -/
def characters (joint : List Char) : Piece → List Char
  | text cs .. => cs
  | border => joint

/-- The characters of a piece, of which those that are not quoted may have a meaning. -/
def marked : Piece → List Marked
  | text cs quoted _ => cs.map (·, !quoted)
  | border => [(' ', false)]

end Piece

/-! ## Cutting into fields -/

/-- The fields of a word, as far as it has been read. -/
structure Fields where
  /-- The fields that are complete, the last one first. -/
  complete : List (List Marked) := []
  /-- The characters of the field that is being read, the last one first. -/
  current : Option (List Marked) := none
  /-- Whether a blank has just ended a field, so that another separator may belong to it. -/
  afterBlank : Bool := false

namespace Fields

/-- Ends the field that is being read. -/
def close (f : Fields) : Fields :=
  match f.current with
  | some field => { f with complete := field.reverse :: f.complete, current := none }
  | none => f

/-- Adds characters to the field that is being read. -/
def add (f : Fields) (cs : List Marked) : Fields :=
  { f with current := some (cs.reverse ++ f.current.getD []), afterBlank := false }

/-- Reads a character that may be a separator. Blanks are one separator with each other and with one
that is no blank; any other separator ends a field of its own. -/
def read (separators : List Char) (f : Fields) (c : Char) : Fields :=
  if !separators.contains c then f.add [(c, true)]
  else if [' ', '\t', '\n'].contains c then
    if f.current.isSome then { f.close with afterBlank := true } else f
  else if f.current.isSome then { f.close with afterBlank := false }
  else if f.afterBlank then { f with afterBlank := false }
  else { f with complete := [] :: f.complete }

/-- Reads a piece. -/
def readPiece (separators : List Char) (f : Fields) : Piece → Fields
  | .border => { f.close with afterBlank := false }
  | .text cs quoted splits =>
    if splits then cs.foldl (read separators) f
    else if quoted ∨ !cs.isEmpty then f.add (cs.map (·, !quoted))
    else f

/-- The fields of some pieces. -/
def ofPieces (separators : List Char) (pieces : List Piece) : List (List Marked) :=
  (pieces.foldl (readPiece separators) {}).close.complete.reverse

end Fields

/-! ## Values -/

/-- A value as a piece. -/
def valuePiece (quoted : Bool) (text : String) : Piece := .text text.toList quoted (!quoted)

/-- Pieces with borders between them. -/
def withBorders (quoted : Bool) (texts : List String) : List Piece :=
  (texts.map (valuePiece quoted)).intersperse .border

/-- The pieces of the value of a parameter. All arguments are fields of their own, except those that
are asked for as one text in quotes. -/
def parameterPieces (s : State) (name : String) (quoted : Bool) : List Piece :=
  if name = "@" ∨ (name = "*" ∧ !quoted) then withBorders quoted s.arguments
  else [valuePiece quoted (s.parameter name)]

/-- A message of nobody else but the shell, as to a parameter. -/
def missing (name : String) (orEmpty : Bool) (message : String) : String :=
  if !message.isEmpty then name ++ ": " ++ message
  else if orEmpty then name ++ ": parameter not set or null"
  else name ++ ": parameter not set"

/-- Whether a parameter may be used without a value even if values are required. -/
def isLenient (name : String) : Bool := ["@", "*", "#", "?", "$", "!", "-"].contains name

/-- Text in upper or lower case, all of it or the first character. -/
def withCase (upper all : Bool) (text : List Char) : List Char :=
  let change (c : Char) : Char := if upper then c.toUpper else c.toLower
  if all then text.map change
  else
    match text with
    | c :: rest => change c :: rest
    | [] => []

/-- Some of the items of a list, from a position on that may count from the end. -/
def sliceOf {α : Type} (items : List α) (offset : Int) (length : Option Int) : List α :=
  let size : Int := items.length
  let start := if offset < 0 then size + offset else offset
  if start < 0 then []
  else
    let rest := items.drop start.toNat
    match length with
    | none => rest
    | some n => if n < 0 then rest.take (rest.length + n).toNat else rest.take n.toNat

/-- The tilde at the front of a path and what follows it, as the home of the user. -/
def withHome (s : State) (text : List Char) : List Char :=
  match text with
  | '~' :: rest =>
    if rest.isEmpty ∨ rest.head? = some '/' then
      match s.valueOf? "HOME" with
      | some home => home.toList ++ rest
      | none => text
    else if rest.takeWhile (· ≠ '/') = rootName then '/' :: rest
    else text
  | _ => text
where
  /-- The name of the user whose home is known. -/
  rootName : List Char := ['r', 'o', 'o', 't']

/-- A word whose first part may begin with a tilde. -/
def homePieces (s : State) : Word → List Piece × Word
  | .literal ('~' :: text) false :: rest =>
    let front := ('~' :: text).takeWhile (· ≠ '/')
    let isWhole := front.length ≤ text.length ∨ rest.isEmpty
    let home := withHome s front
    if isWhole ∧ home ≠ front then
      ([.text home true false], .literal (('~' :: text).drop front.length) false :: rest)
    else ([], .literal ('~' :: text) false :: rest)
  | word => ([], word)

/-- The value of an expression as text; what the expression assigns is assigned. -/
def computed (s : State) (expression : List Char) : String × State :=
  let texts (name : List Char) : List Char := (s.parameter (String.ofList name)).toList
  match Arithmetic.evaluate (s.dialect = .extended) texts expression with
  | .error failure => ("", s.fatal (failure.message expression))
  | .ok (n, changes) =>
    (toString n, changes.reverse.foldl (fun s (name, value) =>
      if s.isRunning then s.assign (String.ofList name) (toString value) else s) s)

/-- The pieces of the first of some words. -/
def firstOf (words : List (List Piece)) : List Piece := words.head?.getD []

/-- The characters of some pieces that are one text. -/
def charactersOf (s : State) (pieces : List Piece) : List Char :=
  pieces.flatMap (Piece.characters s.joint.toList)

/-- The pattern that some pieces are. -/
def patternOf (s : State) (pieces : List Piece) : List Glob :=
  Glob.ofMarked s.negations (pieces.flatMap Piece.marked)

/-- A value in which another text stands in the place of what fits a pattern. -/
def replaced (everywhere : Bool) (anchor : Option Bool) (globs : List Glob)
    (replacement value : List Char) : List Char :=
  match anchor with
  | none => if globs.isEmpty then value
    else Glob.replace globs replacement everywhere (value.length + 1) value
  | some atEnd =>
    let trimmed := Glob.trim globs atEnd true value
    if trimmed = value ∧ !globs.isEmpty then value
    else if atEnd then trimmed ++ replacement
    else replacement ++ trimmed

/-- A slice of the value of a parameter, or of all arguments. -/
def slicePieces (s : State) (name value : String) (quoted : Bool) (operands : List (List Piece)) :
    List Piece × State :=
  let (start, s) := computed s (charactersOf s (firstOf operands))
  let (size?, s) := match operands.drop 1 with
    | [] => (none, s)
    | words =>
      let (n, s) := computed s (charactersOf s (firstOf words))
      (some (n.toInt?.getD 0), s)
  let start := start.toInt?.getD 0
  if name = "@" ∨ name = "*" then
    (withBorders quoted (sliceOf (s.name :: s.arguments) start size?), s)
  else ([valuePiece quoted (String.ofList (sliceOf value.toList start size?))], s)

/-- What a modifier makes of a parameter that has the value it needs. -/
def modified (s : State) (name value : String) (modifier : Modifier) (quoted : Bool)
    (operands : List (List Piece)) : List Piece × State :=
  let changed (text : List Char) : List Piece × State := ([.text text quoted (!quoted)], s)
  let first := firstOf operands
  match modifier with
  | .length =>
    if s.dialect = .extended ∧ (name = "@" ∨ name = "*") then
      changed (toString s.arguments.length).toList
    else changed (toString value.length).toList
  | .trim atEnd longest => changed (Glob.trim (patternOf s first) atEnd longest value.toList)
  | .letterCase upper all => changed (withCase upper all value.toList)
  | .indirect => (parameterPieces s value quoted, s)
  | .replace everywhere anchor =>
    changed (replaced everywhere anchor (patternOf s first)
      (charactersOf s (firstOf (operands.drop 1))) value.toList)
  | .slice => slicePieces s name value quoted operands
  | _ => (parameterPieces s name quoted, s)

mutual

/-- The pieces of a part of a word. With `splits`, text that is not quoted may be cut. -/
def expandPart (run : Runner) (splits : Bool) (part : Part) (s : State) : List Piece × State :=
  match part with
  | .literal text quoted => ([.text text quoted (splits && !quoted)], s)
  | .output command quoted =>
    let (text, s) := outputOf run command s
    ([.text text quoted (!quoted)], s)
  | .arithmetic expression quoted =>
    let (pieces, s) := expandParts run false expression s
    if !s.isRunning then ([], s)
    else
      let (text, s) := computed s (charactersOf s pieces)
      ([valuePiece quoted text], s)
  | .parameter name modifier operands quoted =>
    let name := String.ofList name
    let value? := s.parameter? name
    -- quotes make a field even if there is nothing in them
    let mark : List Piece := if quoted then [.text [] true false] else []
    let orElse (orEmpty : Bool) : Bool := value?.isNone || (orEmpty && value? = some "")
    match modifier with
    | .invalid => ([], s.fatal "Bad substitution")
    | .fallback orEmpty =>
      if !orElse orEmpty then (parameterPieces s name quoted, s)
      else
        let (words, s) := expandOperands run (!quoted) operands s
        (mark ++ firstOf words, s)
    | .alternative orEmpty =>
      if orElse orEmpty then (mark, s)
      else
        let (words, s) := expandOperands run (!quoted) operands s
        (mark ++ firstOf words, s)
    | .assign orEmpty =>
      if !orElse orEmpty then (parameterPieces s name quoted, s)
      else
        let (words, s) := expandOperands run false operands s
        let value := String.ofList (charactersOf s (firstOf words))
        if !s.isRunning then ([], s)
        else if !isName name.toList then ([], s.fatal (name ++ ": bad variable name"))
        else ([valuePiece quoted value], s.assign name value)
    | .require orEmpty =>
      if !orElse orEmpty then (parameterPieces s name quoted, s)
      else
        let (words, s) := expandOperands run false operands s
        if !s.isRunning then ([], s)
        else ([], s.fatal (missing name orEmpty (String.ofList (charactersOf s (firstOf words)))))
    | modifier =>
      if s.options.required && value?.isNone && !isLenient name then
        ([], s.fatal (missing name false ""))
      else
        let (words, s) := expandOperands run false operands s
        if !s.isRunning then ([], s) else modified s name (value?.getD "") modifier quoted words

/-- The pieces of some parts, as far as the script goes on. -/
def expandParts (run : Runner) (splits : Bool) (parts : List Part) (s : State) :
    List Piece × State :=
  match parts with
  | [] => ([], s)
  | part :: rest =>
    let (pieces, s) := expandPart run splits part s
    if !s.isRunning then ([], s)
    else
      let (more, s) := expandParts run splits rest s
      (pieces ++ more, s)

/-- The pieces of each of some words. -/
def expandOperands (run : Runner) (splits : Bool) (words : List (List Part)) (s : State) :
    List (List Piece) × State :=
  match words with
  | [] => ([], s)
  | word :: rest =>
    let (pieces, s) := expandParts run splits word s
    let (more, s) := expandOperands run splits rest s
    (pieces :: more, s)

end

/-! ## Words -/

/-- A word as one text. -/
def expandText (run : Runner) (word : Word) (s : State) : String × State :=
  let (home, word) := homePieces s word
  let (pieces, s) := expandParts run false word s
  (String.ofList (charactersOf s (home ++ pieces)), s)

/-- A word as a pattern. -/
def expandPattern (run : Runner) (word : Word) (s : State) : List Glob × State :=
  let (pieces, s) := expandParts run false word s
  (patternOf s pieces, s)

/-- The names that a field stands for. -/
def namesOf (s : State) (field : List Marked) : List String :=
  if s.options.literal then [String.ofList (field.map (·.1))]
  else Glob.expand s.negations s.tree s.directory field

/-- The fields of a word. -/
def expandWord (run : Runner) (word : Word) (s : State) : List String × State :=
  let (home, word) := homePieces s word
  let (pieces, s) := expandParts run false word s
  ((Fields.ofPieces s.separators (home ++ pieces)).flatMap (namesOf s), s)

/-- The fields of some words, as far as the script goes on. -/
def expandWords (run : Runner) : List Word → State → List String × State
  | [], s => ([], s)
  | word :: rest, s =>
    let (fields, s) := expandWord run word s
    if !s.isRunning then ([], s)
    else
      let (more, s) := expandWords run rest s
      (fields ++ more, s)

/-- The value that is assigned to a variable, in which tildes may also follow colons. -/
def expandValue (run : Runner) (word : Word) (s : State) : String × State :=
  match word with
  | [.literal text false] =>
    let pieces := ((String.ofList text).splitOn ":").map fun piece =>
      String.ofList (withHome s piece.toList)
    (":".intercalate pieces, s)
  | word => expandText run word s

end WasmBindings.Shell
