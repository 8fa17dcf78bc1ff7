import WasmBindings.Shell.Editing.Machine

/-!
# The editor

The program that edits the lines of files as a script says, and shows them or puts them in the place
of the files.
-/

namespace WasmBindings.Shell.Editing

/-- The options of the program. -/
def editing : Usage :=
  { program := "sed", flags := "nsErzub", valued := "efl", optional := "i"
    long := [("quiet", 'n'), ("silent", 'n'), ("expression", 'e'), ("file", 'f'),
      ("regexp-extended", 'E'), ("separate", 's'), ("null-data", 'z'), ("zero-terminated", 'z'),
      ("in-place", 'i'), ("line-length", 'l'), ("unbuffered", 'u'), ("posix", 'b'),
      ("binary", 'b')] }

/-- A text without the line end at its end. -/
def withoutLastEnd (text : List Char) : List Char :=
  if text.getLast? = some '\n' then text.dropLast else text

/-- The parts of the script that the settings name. -/
def scriptParts (settings : List Setting) (s : State) : Except String (List ScriptPart) :=
  (settings.filter fun o => o.letter = 'e' ∨ o.letter = 'f').mapM fun o =>
    if o.letter = 'e' then .ok { text := o.value.toList }
    else
      match readOperand s o.value with
      | (.ok bytes, _) => .ok { text := withoutLastEnd (charsOf bytes), file := some o.value }
      | (.error e, _) => .error ("sed: couldn't open file " ++ o.value ++ ": " ++ e.reason)

/-- Whether a script begins with the line that asks for no output but what commands write. -/
def asksForQuiet (parts : List ScriptPart) : Bool :=
  match parts with
  | part :: _ => part.text.takeWhile (· ≠ '\n') = ['#', 'n']
  | [] => false

/-- The lines of a file. -/
def inputLines (mark : Char) (path : String) (bytes : Bytes) : List InputLine :=
  (piecesOf mark (charsOf bytes)).map fun line =>
    if line.getLast? = some mark then { text := line.dropLast, path }
    else { text := line, ended := false, path }

/-- The lines of files, those of each file by themselves. A file that cannot be read is passed over,
and a directory ends the input; the state has the status for that. -/
def readInputs (mark : Char) : List String → State → List (List InputLine) × State
  | [], s => ([], s)
  | path :: rest, s =>
    match readOperand s path with
    | (.ok bytes, s) =>
      let (others, s) := readInputs mark rest s
      (inputLines mark path bytes :: others, s)
    | (.error .isADirectory, s) =>
      ([], s.complain ("sed: read error on " ++ path ++ ": Is a directory") 4)
    | (.error e, s) =>
      readInputs mark rest (s.complain ("sed: can't read " ++ path ++ ": " ++ e.reason) 2)

/-- What has been written. -/
def outputOf (m : Machine) : Bytes := bytesOf m.output.reverse.flatten

/-- Edits files and shows the lines; each file is by itself if that is wanted. -/
def showEdited (u : Setup) (separate : Bool) (paths : List String) (s : State) : State :=
  let (files, s) := readInputs u.mark (if paths.isEmpty then ["-"] else paths) s
  let before := s.status
  let groups := if separate then files else [files.flatten]
  let (s, _, status?) := groups.foldl (fun (s, missing, status?) lines =>
    match status? with
    | some status => (s, missing, some status)
    | none =>
      let m := Machine.edit u s lines missing
      (m.shell.emit (outputOf m), m.missing, m.status?)) (s, false, none)
  s.done (status?.getD before)

/-- The path under which a file is kept that is edited in its place. -/
def keptAs (path ending : String) : String :=
  let name := ((path.splitOn "/").getLast?).getD path
  let directory := String.ofList (path.toList.take (path.length - name.length))
  let kept := if ending.toList.contains '*' then name.intercalate (ending.splitOn "*")
    else name ++ ending
  if kept.toList.contains '/' then kept else directory ++ kept

/-- Edits a file in its place; says whether to go on with the next one. -/
def editInPlace (u : Setup) (ending path : String) (s : State) : State × Bool :=
  match s.node path, s.placeOf path false with
  | .ok (.file contents mode), .ok place =>
    let m := Machine.edit u s (inputLines u.mark path contents) false
    let s := m.shell
    let s := if ending.isEmpty then s
      else (writePath s (keptAs path ending) contents mode).toOption.getD s
    let s := s.withTree (s.tree.put place (.file (outputOf m) mode))
    (s.done (m.status?.getD s.status), m.status?.isNone)
  | .error e, _ | _, .error e =>
    (s.complain ("sed: can't read " ++ path ++ ": " ++ e.reason) 2, true)
  | .ok _, _ => (s.complain ("sed: couldn't edit " ++ path ++ ": not a regular file") 4, false)

/-- Edits files in their places; the status is that of the last failure. -/
def editAllInPlace (u : Setup) (ending : String) : List String → State → State
  | [], s => s
  | path :: rest, s =>
    let (after, goesOn) := editInPlace u ending path (s.done 0)
    let after := if after.status = 0 then after.done s.status else after
    if goesOn then editAllInPlace u ending rest after else after

/-- Creates the files that a script writes. -/
def createTargets (commands : Array Command) (s : State) : Except State State :=
  (commands.toList.filterMap Command.written?).foldlM (fun s path =>
    if path = "/dev/stdout" ∨ path = "/dev/stderr" then .ok s
    else
      match writePath s path [] with
      | .ok s => .ok s
      | .error e =>
        .error (s.complain ("sed: couldn't open file " ++ path ++ ": " ++ e.reason) 4)) s

/-- Edits the lines of files. -/
def sed : Program := editing.run fun settings operands s =>
  match scriptParts settings s, operands with
  | .error text, _ => s.complain text 4
  | .ok [], [] =>
    s.complain
      "Usage: sed [OPTION]... \x7bscript-only-if-no-other-script\x7d [input-file]..." 1
  | .ok parts, operands =>
    let (parts, paths) : List ScriptPart × List String := match parts, operands with
      | [], script :: rest => ([{ text := script.toList }], rest)
      | parts, operands => (parts, operands)
    match read (given settings "Er") parts with
    | .error (text, status) => s.complain text status
    | .ok commands =>
      match createTargets commands s with
      | .error s => s
      | .ok s =>
        let u : Setup := {
          commands
          quiet := given settings "n" || asksForQuiet parts
          mark := if given settings "z" then '\x00' else '\n'
          width := ((valueOf? settings 'l').bind String.toNat?).getD 70
          inPlace := given settings "i" }
        match valueOf? settings 'i' with
        | none => showEdited u (given settings "s") paths s
        | some ending =>
          if paths.isEmpty then s.complain "sed: no input files" 4
          else editAllInPlace u ending paths s

end WasmBindings.Shell.Editing
