import WasmBindings.Shell.Files.Modes
import WasmBindings.Shell.Files.Copying

/-!
# Removing and making

Programs that remove files and directories, and make new ones, also for files that are put there.
-/

namespace WasmBindings.Shell.Files

/-! ## Removing -/

/-- The options of `rm`. -/
def removing : Usage :=
  { program := "rm", flags := "rRfvdiI"
    long := [("recursive", 'r'), ("force", 'f'), ("verbose", 'v'), ("dir", 'd')] }

/-- Removes a file or, with everything in it, a directory. -/
def remove (settings : List Setting) (s : State) (path : String) : State :=
  let u := removing
  let cannot (e : IoError) : State := u.report s s!"cannot remove {quote path}: {e.reason}"
  let tell (s : State) (text : String) : State :=
    if given settings "v" then s.emitLine text else s
  match s.node path false, s.placeOf path false with
  | .ok .directory, .ok place =>
    if given settings "rR" then
      if [".", ".."].contains (baseName path) then
        u.report s s!"refusing to remove '.' or '..' directory: skipping {quote path}"
      else if place = [] then
        u.report s ("it is dangerous to operate recursively on '/'\n" ++
          "rm: use --no-preserve-root to override this failsafe")
      else tell (s.withTree (s.tree.eraseBelow place)) s!"removed directory {quote path}"
    else if given settings "d" then
      if (s.tree.below place).isEmpty then s.withTree (s.tree.erase place) else cannot .notEmpty
    else cannot .isADirectory
  | .ok _, .ok place => tell (s.withTree (s.tree.erase place)) s!"removed {quote path}"
  | .error e, _ | _, .error e =>
    if given settings "f" ∧ (e = .notFound ∨ e = .notADirectory) then s.done 0 else cannot e

/-- Removes files, and directories if that is wanted. -/
def rm : Program := removing.run fun settings operands s =>
  if operands.isEmpty ∧ !given settings "f" then removing.refuse s "missing operand"
  else eachOperand operands (remove settings) s

/-- The options of `rmdir`. -/
def directoryRemoving : Usage :=
  { program := "rmdir", flags := "pv", long := [("parents", 'p'), ("verbose", 'v')] }

/-- Removes empty directories, as many as there are in the list. -/
def removeDirectories (s : State) : List Path → State
  | [] => s.done 0
  | path :: rest =>
    match s.tree.removeDirectory s.directory (Octet.toPath path.text) with
    | .ok tree => removeDirectories (s.withTree tree) rest
    | .error e => directoryRemoving.report s s!"failed to remove {quote path.text}: {e.reason}"

/-- Removes empty directories, and those around them if that is wanted. -/
def rmdir : Program := directoryRemoving.run fun settings operands s =>
  if operands.isEmpty then directoryRemoving.refuse s "missing operand"
  else
    eachOperand operands (fun s path =>
      let outer := if given settings "p" then (Path.ancestors ⟨path⟩).drop 1 else []
      removeDirectories s (⟨path⟩ :: outer.filter fun p => p.text ≠ "" ∧ p.text ≠ "/")) s

/-! ## Making -/

/-- The options of `mkdir`. -/
def directoryMaking : Usage :=
  { program := "mkdir", flags := "pv", valued := "m"
    long := [("parents", 'p'), ("verbose", 'v'), ("mode", 'm')] }

/-- Makes directories, of which those that are there already are fine. -/
def makeOuter (verbose : Bool) (s : State) : List Path → State
  | [] => s.done 0
  | path :: rest =>
    match s.tree.makeDirectory s.directory (Octet.toPath path.text) with
    | .ok tree =>
      let s := s.withTree tree
      makeOuter verbose
        (if verbose then s.emitLine s!"mkdir: created directory {quote path.text}" else s) rest
    | .error e =>
      if s.isDirectory path.text then makeOuter verbose s rest
      else
        let e := if e = .alreadyExists ∧ !rest.isEmpty then .notADirectory else e
        directoryMaking.report s s!"cannot create directory {quote path.text}: {e.reason}"

/-- Makes directories. -/
def mkdir : Program := directoryMaking.run fun settings operands s =>
  let verbose := given settings "v"
  if operands.isEmpty then directoryMaking.refuse s "missing operand"
  else
    eachOperand operands (fun s path =>
      if given settings "p" then
        let outer := ((Path.ancestors ⟨path⟩).drop 1).reverse
        makeOuter verbose s (outer.filter (fun p => p.text ≠ "" ∧ p.text ≠ "/") ++ [⟨path⟩])
      else
        match s.tree.makeDirectory s.directory (Octet.toPath path) with
        | .ok tree =>
          let s := s.withTree tree
          if verbose then s.emitLine s!"mkdir: created directory {quote path}" else s
        | .error e =>
          directoryMaking.report s s!"cannot create directory {quote path}: {e.reason}") s

/-- The options of `touch`. -/
def touching : Usage :=
  { program := "touch", flags := "acmhf", valued := "drt", long := [("no-create", 'c')] }

/-- Makes files that are not there yet. -/
def touch : Program := touching.run fun settings operands s =>
  if operands.isEmpty then touching.refuse s "missing file operand"
  else
    eachOperand operands (fun s path =>
      match s.node path with
      | .ok _ => s.done 0
      | .error e =>
        if given settings "c" then s.done 0
        else if (Path.mk path).endsInSlash ∧ e = .notFound then
          touching.report s s!"setting times of {quote path}: {e.reason}"
        else
          match writePath s path [] with
          | .ok s => s.done 0
          | .error e => touching.report s s!"cannot touch {quote path}: {e.reason}") s

/-- The options of `ln`. -/
def linking : Usage :=
  { program := "ln", flags := "sfnvTrL", valued := "tS"
    long := [("symbolic", 's'), ("force", 'f'), ("no-dereference", 'n')] }

/-- Makes a link: one with the path in it, or a second name, which is a copy. -/
def link (settings : List Setting) (s : State) (source target : String) : State :=
  let u := linking
  let symbolic := given settings "s"
  let kind := if symbolic then "symbolic link" else "hard link"
  let target := if given settings "nT" then target
    else if s.isDirectory target then inside target (baseName source) else target
  match s.placeOf target false with
  | .error e => u.report s s!"failed to create {kind} {quote target}: {e.reason}"
  | .ok place =>
    let present := (s.tree.find? place).isSome
    if !symbolic ∧ (s.node source).toOption.isNone then
      u.report s s!"failed to access {quote source}: {IoError.notFound.reason}"
    else if present ∧ !given settings "f" then
      u.report s s!"failed to create {kind} {quote target}: {IoError.alreadyExists.reason}"
    else if !(s.tree.find? place.dropLast).any (·.isDirectory) then
      u.report s s!"failed to create {kind} {quote target}: {IoError.notFound.reason}"
    else
      match symbolic, s.node source with
      | true, _ => s.withTree (s.tree.put place (.link (Octet.toText source)))
      | false, .ok .directory =>
        u.report s s!"{source}: hard link not allowed for directory"
      | false, .ok node => s.withTree (s.tree.put place node)
      | false, .error e => u.report s s!"failed to access {quote source}: {e.reason}"

/-- Makes links. -/
def ln : Program := linking.run fun settings operands s =>
  match valueOf? settings 't', operands with
  | none, [source] => link settings s source (baseName source)
  | directory, operands => transfer linking (link settings) directory operands s

/-! ## Installing -/

/-- The options of `install`. -/
def installing : Usage :=
  { program := "install", flags := "dDpsvcTC", valued := "mogtS"
    long := [("mode", 'm'), ("directory", 'd')] }

/-- Copies files with a mode, or makes directories. -/
def install : Program := installing.run fun settings operands s =>
  if given settings "d" then
    eachOperand operands (fun s path =>
      makeOuter false s (((Path.ancestors ⟨path⟩).reverse).filter fun p =>
        p.text ≠ "" ∧ p.text ≠ "/")) s
  else
    let mode := (valueOf? settings 'm').getD "755"
    let manner : Manner := { usage := installing }
    let act (s : State) (source target : String) : State :=
      let target := destination manner s source target
      let s := if given settings "D" then
          let outer := ((Path.ancestors ⟨target⟩).drop 1).reverse
          makeOuter false s (outer.filter fun p => p.text ≠ "" ∧ p.text ≠ "/")
        else s
      let s := copy { manner with exact := true } s source target
      if s.status = 0 then changeMode mode s target else s
    transfer installing act (valueOf? settings 't') operands s

end WasmBindings.Shell.Files
