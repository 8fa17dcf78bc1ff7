import WasmBindings.Shell.Files.Modes

/-!
# Properties of files

Programs that show or change the paths, sizes and times of files.
-/

namespace WasmBindings.Shell.Files

/-- The options of `basename`. -/
def nameTaking : Usage :=
  { program := "basename", flags := "az", valued := "s", strict := true
    long := [("multiple", 'a'), ("suffix", 's')] }

/-- Shows the last names of paths. -/
def basename : Program := nameTaking.run fun settings operands s =>
  let several := given settings "as"
  match operands with
  | [] => nameTaking.refuse s "missing operand"
  | first :: rest =>
    if several then
      let ending := (valueOf? settings 's').getD ""
      operands.foldl (fun s path => s.emitLine (withoutEnding (baseName path) ending)) s
    else
      match rest with
      | [] => s.emitLine (baseName first)
      | [ending] => s.emitLine (withoutEnding (baseName first) ending)
      | _ :: extra :: _ => nameTaking.refuse s s!"extra operand {quote extra}"

/-- The options of `dirname`. -/
def directoryTaking : Usage := { program := "dirname", flags := "z" }

/-- Shows paths without their last names. -/
def dirname : Program := directoryTaking.run fun _ operands s =>
  if operands.isEmpty then directoryTaking.refuse s "missing operand"
  else operands.foldl (fun s path => s.emitLine (directoryName path)) s

/-- The path of a place. -/
def pathOf (place : Place) : String := Octet.ofText ("/" ++ "/".intercalate place)

/-- The options of `readlink`. -/
def linkReading : Usage :=
  { program := "readlink", flags := "femnqsvz"
    long := [("canonicalize", 'f'), ("no-newline", 'n')] }

/-- Shows where links lead. -/
def readlink : Program := linkReading.run fun settings operands s =>
  if operands.isEmpty then linkReading.refuse s "missing operand"
  else
    eachOperand operands (fun s path =>
      let show' (text : String) : State :=
        (s.emitText (if given settings "n" then text else text ++ "\n")).done 0
      if given settings "fem" then
        match s.placeOf path with
        | .ok place => show' (pathOf place)
        | .error _ => s.done 1
      else
        match s.node path false with
        | .ok (.link target) => show' (Octet.ofText target)
        | _ => s.done 1) s

/-- The options of `realpath`. -/
def pathReading : Usage := { program := "realpath", flags := "emqsz" }

/-- Shows paths without links and dots. -/
def realpath : Program := pathReading.run fun _ operands s =>
  if operands.isEmpty then pathReading.refuse s "missing operand"
  else
    eachOperand operands (fun s path =>
      match s.placeOf path with
      | .ok place => s.emitLine (pathOf place)
      | .error e => pathReading.report s s!"{path}: {e.reason}") s

/-- The options of `truncate`. -/
def sizing : Usage :=
  { program := "truncate", flags := "co", valued := "sr", long := [("size", 's')] }

/-- Cuts files to a size, or fills them up with zeros. -/
def truncate : Program := sizing.run fun settings operands s =>
  match (valueOf? settings 's').bind String.toNat?, operands with
  | none, _ => sizing.refuse s "you must specify either '--size' or '--reference'"
  | _, [] => sizing.refuse s "missing file operand"
  | some size, operands =>
    eachOperand operands (fun s path =>
      let before := (s.readFile path).toOption.getD []
      let bytes := before.take size ++ List.replicate (size - before.length) 0
      match writePath s path bytes with
      | .ok s => s.done 0
      | .error e => sizing.report s s!"cannot open {quote path} for writing: {e.reason}") s

/-- The options of `stat`. -/
def inspecting : Usage :=
  { program := "stat", flags := "Lft", valued := "c", long := [("format", 'c')] }

/-- A format with the properties of a file put in. -/
def describe (path : String) (node : Node) : List Char → List Char
  | '%' :: c :: rest =>
    let (size, mode, kind) : Nat × Nat × String := match node with
      | .file contents mode =>
        (contents.length, mode,
          if contents.isEmpty then "regular empty file" else "regular file")
      | .directory => (4096, 0o755, "directory")
      | .link target => (target.utf8ByteSize, 0o777, "symbolic link")
      | .program _ => (0, 0o755, "regular file")
      | .sink | .zeros | .stream _ => (0, 0o666, "character special file")
    let text := match c with
      | 's' => (toString size).toList
      | 'n' => path.toList
      | 'a' => Nat.toDigits 8 mode
      | 'F' => kind.toList
      | '%' => ['%']
      | 'U' | 'G' => "root".toList
      | 'u' | 'g' => ['0']
      | c => ['%', c]
    text ++ describe path node rest
  | c :: rest => c :: describe path node rest
  | [] => []

/-- Shows properties of files. -/
def stat : Program := inspecting.run fun settings operands s =>
  if operands.isEmpty then inspecting.refuse s "missing operand"
  else
    eachOperand operands (fun s path =>
      match s.node path (given settings "L") with
      | .ok node =>
        let format := ((valueOf? settings 'c').getD "%n").toList
        s.emitLine (String.ofList (describe path node format))
      | .error e => inspecting.report s s!"cannot statx {quote path}: {e.reason}") s

/-- The options of `mktemp`. -/
def temporary : Usage :=
  { program := "mktemp", flags := "dqtu", valued := "p"
    long := [("directory", 'd'), ("quiet", 'q')] }

/-- Makes a file or directory with a name that is not used yet. -/
def mktemp : Program := temporary.run fun settings operands s =>
  let template := operands.head?.getD "/tmp/tmp.XXXXXXXXXX"
  let template := match valueOf? settings 'p' with
    | some directory => inside directory template
    | none => if given settings "t" then inside "/tmp" template else template
  let stem := String.ofList ((template.toList.reverse.dropWhile (· = 'X')).reverse)
  let missing := template.length - stem.length
  let path? := (List.range 1000).findSome? fun n =>
    let digits := toString n
    let path := stem ++ String.ofList (List.replicate (missing - digits.length) 'A') ++ digits
    if (s.node path).toOption.isNone then some path else none
  if missing < 3 then temporary.report s s!"too few X's in template {quote template}"
  else
    match path? with
    | none => s.done 1
    | some path =>
      let made := if given settings "d" then
          (s.tree.makeDirectory s.directory (Octet.toPath path)).map s.withTree
        else writePath s path [] 0o600
      match made with
      | .ok s => s.emitLine path
      | .error e =>
        let kind := if given settings "d" then "directory" else "file"
        temporary.report s s!"failed to create {kind} via template {quote template}: {e.reason}"

end WasmBindings.Shell.Files
