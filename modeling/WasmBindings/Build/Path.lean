import WasmBindings.Bytes

/-!
# Paths

A path is a text; slashes separate its segments, and one at the front makes it absolute. Joining
and taking a path apart are operations on the text alone: they never look at a file system.
-/

namespace WasmBindings

/-- A path, as it is written. -/
structure Path where
  text : String
  deriving DecidableEq, Repr, Inhabited

namespace Path

/-- Splits a text at every slash; there is always one piece more than there are slashes. -/
def splitSlash : List Char → List (List Char)
  | [] => [[]]
  | '/' :: rest => [] :: splitSlash rest
  | c :: rest =>
    match splitSlash rest with
    | [] => [[c]]
    | piece :: pieces => (c :: piece) :: pieces

/-- The segments between slashes, without the empty ones. -/
def segments (p : Path) : List String :=
  (splitSlash p.text.toList).filter (· ≠ []) |>.map String.ofList

/-- Whether the path starts at the root. -/
def isAbsolute (p : Path) : Bool := p.text.toList.head? == some '/'

/-- Whether the path ends in a slash. -/
def endsInSlash (p : Path) : Bool := p.text.toList.getLast? == some '/'

/-- A path inside a directory. An absolute path stays as it is. -/
def join (directory inner : Path) : Path :=
  if inner.isAbsolute ∨ directory.text.isEmpty then inner
  else if directory.endsInSlash then ⟨directory.text ++ inner.text⟩
  else ⟨directory.text ++ "/" ++ inner.text⟩

/-- The segments that count: a dot counts only at the front of a relative path. -/
def components (p : Path) : List String :=
  match p.segments with
  | [] => []
  | first :: rest =>
    (if first = "." ∧ p.isAbsolute then [] else [first]) ++ rest.filter (· ≠ ".")

/-- The path of some components. -/
def ofComponents (isAbsolute : Bool) (components : List String) : Path :=
  ⟨(if isAbsolute then "/" else "") ++ "/".intercalate components⟩

/-- The path and the directories around it, innermost first. A relative path ends in the empty path,
an absolute one in the root. -/
def ancestors (p : Path) : List Path :=
  p :: (List.range p.components.length).reverse.map fun count =>
    ofComponents p.isAbsolute (p.components.take count)

/-- The name at the end of a path, unless it ends in a dot or two. -/
def fileName? (p : Path) : Option String :=
  match p.components.getLast? with
  | some name => if name = "." ∨ name = ".." then none else some name
  | none => none

/-- A name without what follows its last dot; a dot in front does not count. -/
def stemOf (name : List Char) : List Char :=
  let reversed := name.reverse
  if '.' ∈ name then
    match (reversed.dropWhile (· ≠ '.')).drop 1 with
    | [] => name
    | stem => stem.reverse
  else name

/-- The stem of the name at the end of a path. -/
def fileStem? (p : Path) : Option String :=
  p.fileName?.map fun name => String.ofList (stemOf name.toList)

/-- The stem, or `module` for a path that has none. -/
def artifactName (p : Path) : String := p.fileStem?.getD "module"

end Path

end WasmBindings
