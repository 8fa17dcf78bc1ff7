import WasmBindings.Build.Error
import WasmBindings.Text.Octet

/-!
# File trees

The files and directories below a root, and the operations on them with the outcomes that an
operating system gives. A place is a list of names from the root; a path is resolved to a place by
walking its segments, each of which has to start from a directory. Symbolic links are followed on
the way, and at its end unless the operation is about the link itself.
-/

namespace WasmBindings

/-- The names on the way from the root. -/
abbrev Place := List String

/-- What can stand at a place. -/
inductive Node where
  | directory
  /-- A file, with the bits of its mode. -/
  | file (contents : Bytes) (mode : Nat)
  /-- A symbolic link, with the path it holds. -/
  | link (target : String)
  /-- A program of the system, by its name. -/
  | program (name : String)
  /-- Swallows what is written to it and has nothing to read. -/
  | sink
  /-- Swallows what is written to it and has as many zeros to read as anybody wants. -/
  | zeros
  /-- A stream of the program that opens it, by its number. -/
  | stream (number : Nat)
  deriving DecidableEq, Repr, Inhabited

namespace Node

/-- The mode of a new file. -/
def plainMode : Nat := 0o644

/-- The mode of a new file that can be run. -/
def programMode : Nat := 0o755

/-- Whether a mode lets somebody run a file. -/
def canRun (mode : Nat) : Bool := mode &&& 0o111 ≠ 0

/-- Whether this is a file that can be run. -/
def isExecutable : Node → Bool
  | file _ mode => canRun mode
  | program _ => true
  | _ => false

/-- Whether this is a directory. -/
def isDirectory : Node → Bool
  | directory => true
  | _ => false

end Node

/-- A file tree. The root is always there. -/
structure FileTree where
  entries : List (Place × Node) := []
  deriving Repr, Inhabited

namespace FileTree

/-- What stands at a place. -/
def find? (t : FileTree) (place : Place) : Option Node :=
  if place = [] then some .directory else (t.entries.find? (·.1 = place)).map (·.2)

/-- Puts something at a place, instead of what was there. -/
def put (t : FileTree) (place : Place) (node : Node) : FileTree :=
  ⟨t.entries.filter (·.1 ≠ place) ++ [(place, node)]⟩

/-- Takes away what stands at a place. -/
def erase (t : FileTree) (place : Place) : FileTree :=
  ⟨t.entries.filter (·.1 ≠ place)⟩

/-- Takes away a place and everything below it. -/
def eraseBelow (t : FileTree) (place : Place) : FileTree :=
  ⟨t.entries.filter fun (other, _) => !place.isPrefixOf other⟩

/-- Everything below a place, by the names from there. -/
def below (t : FileTree) (place : Place) : List (Place × Node) :=
  t.entries.filterMap fun (other, node) =>
    if place.isPrefixOf other ∧ other ≠ place then some (other.drop place.length, node) else none

/-- The names in a directory, in order. -/
def names (t : FileTree) (place : Place) : List String :=
  ((t.below place).filterMap fun (rest, _) =>
    match rest with
    | [name] => some name
    | _ => none).mergeSort fun a b => Octet.precedes a.toList b.toList

/-! ## Resolving paths -/

/-- The number of bytes that the name of an entry may have. -/
def nameLimit : Nat := 255

/-- The number of bytes that stay below what a path may have. -/
def pathLimit : Nat := 4096

/-- How many links may be followed on one way. -/
def linkLimit : Nat := 40

/-- Succeeds if a place is a directory. -/
def requireDirectory (t : FileTree) (place : Place) : Except IoError Unit :=
  match t.find? place with
  | some .directory => .ok ()
  | some _ => .error .notADirectory
  | none => .error .notFound

/-- The place that some segments lead to. The place itself need not exist. With `follow`, a link at
the end is followed as well. -/
def walk (t : FileTree) (follow : Bool) (links : Nat) (place : Place) (segments : List String) :
    Except IoError Place :=
  match segments with
  | [] => .ok place
  | segment :: rest => do
    t.requireDirectory place
    if segment = "." then t.walk follow links place rest
    else if segment = ".." then t.walk follow links place.dropLast rest
    else if segment.utf8ByteSize > nameLimit then .error .nameTooLong
    else
      let next := place ++ [segment]
      match links, t.find? next with
      | 0, some (.link _) => .error .tooManyLinks
      | links + 1, some (.link target) =>
        if rest.isEmpty ∧ !follow then .ok next
        else
          let path : Path := ⟨target⟩
          t.walk follow links (if path.isAbsolute then [] else place) (path.segments ++ rest)
      | links, _ => t.walk follow links next rest
termination_by (links, segments.length)

/-- What is wrong with a path by itself. -/
def pathError? (p : Path) : Option IoError :=
  if p.text.toList.contains '\x00' then some .nulInName
  else if p.text.isEmpty then some .notFound
  else if p.text.utf8ByteSize ≥ pathLimit then some .nameTooLong
  else none

/-- The place of a path as seen from a directory, where anything or nothing may stand. -/
def place (t : FileTree) (directory : Place) (p : Path) (follow : Bool := true) :
    Except IoError Place :=
  match pathError? p with
  | some error => .error error
  | none => t.walk follow linkLimit (if p.isAbsolute then [] else directory) p.segments

/-- The place of a path as seen from a directory. If the path ends in a slash, nothing but a
directory may stand there. -/
def resolve (t : FileTree) (directory : Place) (p : Path) (follow : Bool := true) :
    Except IoError Place := do
  let place ← t.place directory p (follow || p.endsInSlash)
  if p.endsInSlash ∧ (t.find? place).isSome then t.requireDirectory place
  return place

/-- What stands at a path. -/
def node (t : FileTree) (directory : Place) (p : Path) (follow : Bool := true) :
    Except IoError Node := do
  match t.find? (← t.resolve directory p follow) with
  | some node => return node
  | none => throw .notFound

/-- Whether a path leads to a directory. -/
def isDirectory (t : FileTree) (directory : Place) (p : Path) : Bool :=
  match t.node directory p with
  | .ok node => node.isDirectory
  | .error _ => false

/-! ## Files -/

/-- How many zeros are read at most where there is no end of them. -/
def zeroCount : Nat := 65536

/-- The contents of a file. -/
def readFile (t : FileTree) (directory : Place) (p : Path) : Except IoError Bytes := do
  match ← t.node directory p with
  | .directory => throw .isADirectory
  | .file contents _ => return contents
  | .zeros => return List.replicate zeroCount 0
  | .program _ | .sink | .stream _ | .link _ => return []

/-- Writes a file, which is made with a mode if it is not there and keeps its own if it is. -/
def writeFile (t : FileTree) (directory : Place) (p : Path) (contents : Bytes)
    (mode : Nat := Node.plainMode) : Except IoError FileTree := do
  let place ← t.place directory p
  if p.endsInSlash then throw .isADirectory
  match t.find? place with
  | some .directory => throw .isADirectory
  | some (.file _ mode) => return t.put place (.file contents mode)
  | some (.program _) => throw .permissionDenied
  | some .sink | some .zeros | some (.stream _) => return t
  | some (.link _) | none => return t.put place (.file contents mode)

/-- Removes a file or a link. -/
def removeFile (t : FileTree) (directory : Place) (p : Path) : Except IoError FileTree := do
  let place ← t.resolve directory p false
  match t.find? place with
  | none => throw .notFound
  | some .directory => throw .isADirectory
  | some (.file ..) | some (.link _) => return t.erase place
  | some _ => throw .permissionDenied

/-! ## Directories -/

/-- Makes a directory where nothing is yet. -/
def makeDirectory (t : FileTree) (directory : Place) (p : Path) : Except IoError FileTree := do
  let place ← t.place directory p false
  match t.find? place with
  | some _ => throw .alreadyExists
  | none => return t.put place .directory

/-- Removes an empty directory. -/
def removeDirectory (t : FileTree) (directory : Place) (p : Path) : Except IoError FileTree := do
  let place ← t.resolve directory p false
  if p.segments.getLast? = some "." then throw .invalidArgument
  t.requireDirectory place
  if (t.below place).isEmpty then return t.erase place else throw .notEmpty

/-- Makes the first of some directories, each of which lies in the next. Those further out are made
only if it cannot be made without. -/
def makeFirst (t : FileTree) (directory : Place) : List Path → FileTree × Except IoError Unit
  | [] => (t, .error (.other "failed to create whole tree"))
  | p :: outer =>
    if p.text.isEmpty then (t, .ok ())
    else
      let orPresent (t : FileTree) (error : IoError) : FileTree × Except IoError Unit :=
        (t, if t.isDirectory directory p then .ok () else .error error)
      match t.makeDirectory directory p with
      | .ok t => (t, .ok ())
      | .error .notFound =>
        match t.makeFirst directory outer with
        | (t, .error error) => (t, .error error)
        | (t, .ok ()) =>
          match t.makeDirectory directory p with
          | .ok t => (t, .ok ())
          | .error error => orPresent t error
      | .error error => orPresent t error

/-- Makes a directory and those around it. -/
def createDirectories (t : FileTree) (directory : Place) (p : Path) :
    FileTree × Except IoError Unit :=
  t.makeFirst directory p.ancestors

/-! ## Whole trees -/

/-- Copies what stands at a place, and everything below it, to another place. -/
def copyTree (t : FileTree) (source target : Place) : FileTree :=
  match t.find? source with
  | none => t
  | some node =>
    (t.below source).foldl (fun t (rest, inner) => t.put (target ++ rest) inner)
      (t.put target node)

/-- Gives what stands at a place, and everything below it, another place, where it takes the place
of a file or of an empty directory. -/
def rename (t : FileTree) (source target : Place) : Except IoError FileTree := do
  match t.find? source with
  | none => throw .notFound
  | some node =>
    t.requireDirectory target.dropLast
    if source = target then return t
    if source.isPrefixOf target then throw .invalidArgument
    match t.find? target with
    | some .directory =>
      if !node.isDirectory then throw .isADirectory
      if !(t.below target).isEmpty then throw .notEmpty
    | some _ => if node.isDirectory then throw .notADirectory
    | none => pure ()
    return (t.copyTree source target).eraseBelow source

end FileTree

end WasmBindings
