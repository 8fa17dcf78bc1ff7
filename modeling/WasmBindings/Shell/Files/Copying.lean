import WasmBindings.Shell.Files.Names

/-!
# Copying and moving

Programs that copy and move files and directories.
-/

namespace WasmBindings.Shell.Files

/-- What the options of copying and moving say. -/
structure Manner where
  usage : Usage
  recursive : Bool := false
  keepsMode : Bool := false
  keepsLinks : Bool := false
  overwrites : Bool := true
  verbose : Bool := false
  /-- Whether the target is never a directory to put things into. -/
  exact : Bool := false

/-- Says what was done, if that is wanted. -/
def Manner.tell (m : Manner) (s : State) (text : String) : State :=
  if m.verbose then s.emitLine text else s

/-! ## Copying -/

/-- Copies a file to a path. -/
def copyFile (m : Manner) (s : State) (source target : String) (node : Node) : State :=
  let u := m.usage
  let (contents, mode) := match node with
    | .file contents mode => (contents, mode)
    | .zeros => (List.replicate FileTree.zeroCount 0, Node.plainMode)
    | .program _ => ([], Node.programMode)
    | _ => ([], Node.plainMode)
  match s.node target with
  | .ok .directory =>
    u.report s s!"cannot overwrite directory {quote target} with non-directory"
  | .error .notADirectory =>
    u.report s s!"cannot stat {quote target}: {IoError.notADirectory.reason}"
  | _ =>
    let slashed := (Path.mk target).endsInSlash
    match writePath s target contents mode with
    | .error e =>
      let e := if slashed then IoError.notADirectory else e
      u.report s s!"cannot create regular file {quote target}: {e.reason}"
    | .ok s =>
      let s := m.tell s s!"{quote source} -> {quote target}"
      match m.keepsMode, s.placeOf target, s.node target with
      | true, .ok place, .ok (.file contents _) =>
        s.withTree (s.tree.put place (.file contents mode))
      | _, _, _ => s.done 0

/-- Copies a directory and everything in it to a path. -/
def copyDirectory (m : Manner) (s : State) (source target : String) : State :=
  let u := m.usage
  match s.placeOf source, s.placeOf target with
  | .ok origin, .ok goal =>
    match s.tree.find? goal with
    | some .directory | none =>
      if !(s.tree.find? goal.dropLast).any (·.isDirectory) then
        u.report s s!"cannot create directory {quote target}: {IoError.notFound.reason}"
      else if origin.isPrefixOf goal then
        let tree := s.tree.put goal .directory
        u.report { s with tree }
          s!"cannot copy a directory, {quote source}, into itself, {quote target}"
      else s.withTree (s.tree.copyTree origin goal)
    | some _ =>
      u.report s s!"cannot overwrite non-directory {quote target} with directory {quote source}"
  | _, .error e => u.report s s!"cannot create directory {quote target}: {e.reason}"
  | .error e, _ => u.report s s!"cannot stat {quote source}: {e.reason}"

/-- Where a copy goes: into a directory, or to the path itself. -/
def destination (m : Manner) (s : State) (source target : String) : String :=
  if !m.exact ∧ s.isDirectory target then inside target (baseName source) else target

/-- Whether two paths lead to one file. -/
def isSame (s : State) (a b : String) : Bool :=
  match s.placeOf a, s.placeOf b with
  | .ok x, .ok y => x = y
  | _, _ => false

/-- Copies what stands at a path. -/
def copy (m : Manner) (s : State) (source target : String) : State :=
  let u := m.usage
  let target := destination m s source target
  match s.node source (!m.keepsLinks) with
  | .error e => u.report s s!"cannot stat {quote source}: {e.reason}"
  | .ok .directory =>
    if m.recursive then copyDirectory m s source target
    else u.report s s!"-r not specified; omitting directory {quote source}"
  | .ok (.link path) =>
    match s.placeOf target false with
    | .ok place => s.withTree (s.tree.put place (.link path))
    | .error e => u.report s s!"cannot create symbolic link {quote target}: {e.reason}"
  | .ok node =>
    if isSame s source target then
      u.report s s!"{quote source} and {quote target} are the same file"
    else if !m.overwrites ∧ (s.node target).toOption.isSome then s.done 0
    else copyFile m s source target node

/-! ## Moving -/

/-- Moves what stands at a path. -/
def move (m : Manner) (s : State) (source target : String) : State :=
  let u := m.usage
  let target := destination m s source target
  let cannot (e : IoError) : State :=
    u.report s s!"cannot move {quote source} to {quote target}: {e.reason}"
  match s.node source false, s.placeOf source false with
  | .error e, _ | _, .error e => u.report s s!"cannot stat {quote source}: {e.reason}"
  | .ok node, .ok old =>
    if !node.isDirectory ∧ (Path.mk target).endsInSlash then cannot .notADirectory
    else
      match s.tree.place s.directory (Octet.toPath target) false with
      | .error e => cannot e
      | .ok new =>
        if old = new then u.report s s!"{quote source} and {quote target} are the same file"
        else if !m.overwrites ∧ (s.tree.find? new).isSome then s.done 0
        else
          match s.tree.rename old new with
          | .ok tree =>
            m.tell (s.withTree tree) s!"renamed {quote source} -> {quote target}"
          | .error .invalidArgument =>
            u.report s s!"cannot move {quote source} to a subdirectory of itself, {quote target}"
          | .error .isADirectory =>
            u.report s s!"cannot overwrite directory {quote target} with non-directory"
          | .error .notADirectory =>
            if (s.tree.find? new).isSome then
              u.report s
                s!"cannot overwrite non-directory {quote target} with directory {quote source}"
            else cannot .notADirectory
          | .error .notEmpty =>
            u.report s s!"cannot overwrite {quote target}: {IoError.notEmpty.reason}"
          | .error e => cannot e

/-- Copying or moving, of one file or into a directory. -/
def transfer (u : Usage) (act : State → (source target : String) → State)
    (directory : Option String) : Program := fun operands s =>
  match directory, operands with
  | _, [] => u.refuse s "missing file operand"
  | some target, several => eachOperand several (fun s source => act s source target) s
  | none, [one] => u.refuse s s!"missing destination file operand after {quote one}"
  | none, [source, target] => act s source target
  | none, several =>
    let target := several.getLast?.getD ""
    match s.node target with
    | .ok .directory => eachOperand several.dropLast (fun s source => act s source target) s
    | .ok _ => u.report s s!"target {quote target}: {IoError.notADirectory.reason}"
    | .error e => u.report s s!"target {quote target}: {e.reason}"

/-- The options of `cp`. -/
def copying : Usage :=
  { program := "cp", flags := "aprRfLPvniduHTx", valued := "tS"
    long := [("recursive", 'r'), ("archive", 'a'), ("force", 'f'), ("verbose", 'v'),
      ("no-clobber", 'n'), ("target-directory", 't'), ("no-target-directory", 'T'),
      ("dereference", 'L'), ("no-dereference", 'P')] }

/-- Copies files and directories. -/
def cp : Program := copying.run fun settings operands s =>
  let recursive := given settings "rRa"
  let manner : Manner := {
    usage := copying
    recursive
    keepsMode := given settings "ap"
    keepsLinks := given settings "aPd" || (recursive && !given settings "LH")
    overwrites := !given settings "n"
    verbose := given settings "v"
    exact := given settings "T" }
  transfer copying (copy manner) (valueOf? settings 't') operands s

/-- The options of `mv`. -/
def moving : Usage :=
  { program := "mv", flags := "fvniuT", valued := "tS"
    long := [("force", 'f'), ("verbose", 'v'), ("no-clobber", 'n'), ("target-directory", 't'),
      ("no-target-directory", 'T')] }

/-- Moves files and directories. -/
def mv : Program := moving.run fun settings operands s =>
  let manner : Manner := {
    usage := moving
    overwrites := !given settings "n"
    verbose := given settings "v"
    exact := given settings "T" }
  transfer moving (move manner) (valueOf? settings 't') operands s

end WasmBindings.Shell.Files
