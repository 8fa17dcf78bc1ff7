import WasmBindings.Shell.Run

/-!
# The sandbox

A platform that lives in a value: a file tree, a working directory, and the directories where
programs are looked for. Tools are shell scripts or programs of the system, and the log is kept.
-/

namespace WasmBindings

/-- A machine in a value. -/
structure Sandbox where
  tree : FileTree
  /-- The working directory. -/
  home : Place
  searchPath : List Path
  log : Log := []
  deriving Repr

namespace Sandbox

/-- The directory that a scratch directory is made as. -/
def scratch : Place := ["tmp", "scratch"]

/-- The path of a place. -/
def pathOf (place : Place) : Path := ⟨"/" ++ "/".intercalate place⟩

/-- The directories of the system. -/
def systemDirectories : List Place :=
  [["tmp"], ["dev"], ["bin"], ["usr"], ["usr", "bin"]]

/-- The files that stand for devices. -/
def devices : List (Place × Node) :=
  [(["dev", "null"], .sink), (["dev", "zero"], .zeros), (["dev", "stdin"], .stream 0),
    (["dev", "stdout"], .stream 1), (["dev", "stderr"], .stream 2)]

/-- A sandbox with an empty working directory and the programs of the system. -/
def empty (home : Place) : Sandbox where
  tree :=
    let programs := Shell.programNames.flatMap fun name =>
      [(["bin", name], Node.program name), (["usr", "bin", name], Node.program name)]
    ⟨(systemDirectories ++ [home]).map (·, .directory) ++ devices ++ programs⟩
  home := home
  searchPath := [⟨"/usr/bin"⟩, ⟨"/bin"⟩]

/-- A state in which a program starts. -/
def shellState (s : Sandbox) (directory : Place) (name : String)
    (settings : List (String × String)) : Shell.State where
  tree := s.tree
  directory := directory
  name := Octet.ofText name
  bindings :=
    (settings ++ [("PATH", ":".intercalate (s.searchPath.map (·.text)))]).map fun (name, value) =>
      ⟨Octet.ofText name, some (Octet.ofText value), true, false⟩

/-- Whether a file can be run. -/
def isExecutable (s : Sandbox) (p : Path) : Bool :=
  match s.tree.node s.home p with
  | .ok node => node.isExecutable
  | .error _ => false

/-- The executable file of a program: the file itself if the name is a path, and else the first one
of that name on the search path. -/
def locate (s : Sandbox) (program : String) : Option Path :=
  let path : Path := ⟨program⟩
  if path.isAbsolute ∨ 1 < path.components.length then
    let full := (pathOf s.home).join path
    if s.isExecutable full then some full else none
  else if program.isEmpty then none
  else (s.searchPath.map (·.join path)).find? s.isExecutable

/-- The path that a command starts. A name without a slash is looked for on the search path; a file
there that cannot be run counts only if no other is found. -/
def startPath (s : Sandbox) (directory : Place) (program : String) : Except IoError Path :=
  if program.isEmpty then .error .notFound
  else if program.toList.contains '/' then .ok ⟨program⟩
  else if FileTree.nameLimit < program.utf8ByteSize then .error .nameTooLong
  else
    let candidates := s.searchPath.map (·.join ⟨program⟩)
    let outcome (path : Path) : Except IoError Node := s.tree.node directory path
    match candidates.find? fun path => (outcome path).toOption.any (·.isExecutable) with
    | some path => .ok path
    | none =>
      if candidates.any fun path => (outcome path).toOption.isSome then .error .permissionDenied
      else .error .notFound

/-! ## Commands -/

/-- All texts that are handed over with a command. -/
def handedOver (c : Command) : List String :=
  c.program :: c.arguments ++ c.settings.map fun (name, value) => name ++ "=" ++ value

/-- The number of bytes that a text handed over to a program may not reach. -/
def textLimit : Nat := 131071

/-- The number of bytes that all texts together may not exceed. -/
def totalLimit : Nat := 2097152

/-- Whether the texts of a command are too much to hand over. -/
def isTooMuch (c : Command) : Bool :=
  let sizes := (handedOver c).map String.utf8ByteSize
  sizes.any (textLimit ≤ ·) || totalLimit < sizes.foldl (fun sum size => sum + size + 9) 0

/-- Whether something in a command holds a NUL, which nothing that is handed over can. -/
def holdsNul (c : Command) : Bool :=
  (handedOver c ++ (c.directory.map (·.text)).toList).any (·.toList.contains '\x00')

/-- The directory that a command runs in. -/
def startDirectory (s : Sandbox) (c : Command) : Except IoError Place :=
  match c.directory with
  | none => .ok s.home
  | some directory => do
    let place ← s.tree.resolve s.home directory
    s.tree.requireDirectory place
    return place

/-- Runs a command. A program that is named by a relative path is looked for from the directory
that the command runs in. -/
def runCommand (s : Sandbox) (c : Command) : Sandbox × Except IoError Completion :=
  let ended : Except IoError Shell.State := do
    if holdsNul c then throw .nulInCommand
    let directory ← s.startDirectory c
    let path ← s.startPath directory c.program
    if isTooMuch c then throw .argumentsTooLong
    Shell.start (Octet.ofText path.text) (c.arguments.map Octet.ofText)
      (s.shellState directory path.text c.settings)
  match ended with
  | .ok state => ({ s with tree := state.tree }, .ok ⟨state.exitStatus, state.drain 2⟩)
  | .error e => (s, .error e)

/-- A change of the tree that may fail. -/
def changing (change : FileTree → Place → Except IoError FileTree) :
    StateM Sandbox (Except IoError Unit) := fun s =>
  match change s.tree s.home with
  | .ok tree => (.ok (), { s with tree })
  | .error e => (.error e, s)

/-- The sandbox as a platform. -/
def platform : Platform (StateM Sandbox) where
  createDirectories p := fun s =>
    let (tree, outcome) := s.tree.createDirectories s.home p
    (outcome, { s with tree })
  readFile p := fun s => (s.tree.readFile s.home p, s)
  writeFile p contents := changing fun tree home => tree.writeFile home p contents
  removeFile p := changing fun tree home => tree.removeFile home p
  locate program := fun s => (s.locate program, s)
  run command := fun s =>
    let (s, outcome) := s.runCommand command
    (outcome, s)
  makeScratch := fun s => (.ok (pathOf scratch), { s with tree := s.tree.put scratch .directory })
  removeScratch _ := modify fun s => { s with tree := s.tree.eraseBelow scratch }
  record r := modify fun s => { s with log := s.log ++ [r] }

end Sandbox

end WasmBindings
