import WasmBindings.Build.Platform
import WasmBindings.Shell.Pattern
import WasmBindings.Shell.Syntax

/-!
# The state of a running script

A script works on a file tree, reads and writes through numbered streams, and ends with a status or
a signal. Several streams can lead to one channel, and scripts that are started by others share the
channels with them. All texts stand for bytes (`Octet`).
-/

namespace WasmBindings.Shell

/-- Where a stream leads. -/
inductive Channel where
  /-- Written to at its end and read from its front. -/
  | pipe (contents : Bytes)
  /-- A file, read and written at a position, or always written to at its end. -/
  | file (place : Place) (position : Nat) (atEnd : Bool)
  | sink
  /-- A directory, which cannot be read like a file. -/
  | directory
  deriving Repr, Inhabited

/-- What a channel has to read. -/
def Channel.contents (t : FileTree) : Channel → Bytes
  | .pipe contents => contents
  | .file place position _ =>
    match t.find? place with
    | some (.file contents _) => contents.drop position
    | _ => []
  | .sink | .directory => []

/-- A variable of a script. Programs that are started see the exported ones. -/
structure Variable where
  name : String
  value : Option String
  exported : Bool := false
  readOnly : Bool := false
  deriving Repr, Inhabited

/-- How a script goes on. -/
inductive Flow where
  | running
  /-- Out of so many loops; then on with the next round, or not. -/
  | leaving (levels : Nat) (again : Bool)
  | returning
  | exited
  | killed (signal : Nat)
  deriving DecidableEq, Repr, Inhabited

/-- What a script has switched on. -/
structure Options where
  /-- A failing command ends the script. -/
  strict : Bool := false
  /-- A parameter without a value is an error. -/
  required : Bool := false
  /-- Commands are shown before they run. -/
  trace : Bool := false
  /-- Patterns do not stand for names of files. -/
  literal : Bool := false
  /-- Files are not overwritten. -/
  protect : Bool := false
  /-- Variables are exported when they get a value. -/
  exporting : Bool := false
  /-- A pipeline fails if one of its commands does. -/
  anyFailure : Bool := false
  /-- Commands are read but not run. -/
  idle : Bool := false
  deriving Repr, Inhabited

/-- A command that runs beside the script. One that sleeps is not run before somebody waits for it,
so that a signal can still reach it. -/
structure Job where
  process : Nat
  status : Nat := 0
  /-- The command, as long as it has not been run. -/
  command : Option Statement := none
  signal : Option Nat := none
  deriving Inhabited

/-- A running script. -/
structure State where
  tree : FileTree
  directory : Place
  /-- The name under which the script was started. -/
  name : String
  arguments : List String := []
  bindings : List Variable := []
  functions : List (String × Statement) := []
  /-- The variables that the functions being run have hidden, the innermost function first. -/
  hidden : List (List (String × Option Variable)) := []
  channels : Array Channel := #[.sink, .pipe [], .pipe []]
  /-- The channel that each open stream leads to. -/
  streams : List (Nat × Nat) := [(0, 0), (1, 1), (2, 2)]
  status : Nat := 0
  line : Nat := 0
  /-- The command of the shell itself, or the file, whose errors are being reported. -/
  context : String := ""
  /-- How many loops there are around the command being run. -/
  loops : Nat := 0
  /-- The status of the last command whose output was taken into a word. -/
  taken : Option Nat := none
  options : Options := {}
  /-- The permissions that new files do not get. -/
  mask : Nat := 0o22
  /-- Whether a failure is asked for, as in a condition, and so does not end a strict script. -/
  tested : Bool := false
  flow : Flow := .running
  process : Nat := 4096
  parent : Nat := 1
  lastProcess : Nat := 4096
  jobs : List Job := []
  /-- The process of the last command that was set to run beside the script. -/
  background : Option Nat := none
  /-- What to do on a signal, or at the end for zero; empty text ignores the signal. -/
  traps : List (Nat × String) := []
  /-- The signals that have come and wait for their traps. -/
  pending : List Nat := []
  /-- The status that the script had when the trap began that is being run. -/
  trapStatus : Option Nat := none
  /-- Whether this is a part of the script that runs by itself, so that a signal to the script does
  not reach it. -/
  isPart : Bool := false
  /-- The signals that this part has sent to the script. -/
  forScript : List Nat := []
  /-- The signals that have been sent to the script that started this one. -/
  forParent : List Nat := []
  dialect : Dialect := .plain
  /-- How far the letters of the present argument have been read as options. -/
  optionLetter : Nat := 0
  /-- Which argument is read for options next. -/
  optionIndex : Nat := 1
  /-- For how long the script has slept. -/
  slept : Nat := 0
  /-- How many scripts have been started on the way to this one. -/
  depth : Nat := 0

namespace State

/-- Finishes a command. -/
def done (s : State) (status : Nat) : State := { s with status }

/-- Whether the script goes on with its next command. -/
def isRunning (s : State) : Bool := s.flow = .running

/-- Ends the script. -/
def exit (s : State) (status : Nat) : State := { s with status, flow := .exited }

/-! ## Streams -/

/-- Opens a channel. -/
def addChannel (s : State) (channel : Channel) : Nat × State :=
  (s.channels.size, { s with channels := s.channels.push channel })

/-- Lets a stream lead to a channel. -/
def point (s : State) (stream channel : Nat) : State :=
  { s with streams := (stream, channel) :: s.streams.filter (·.1 ≠ stream) }

/-- Closes a stream. -/
def close (s : State) (stream : Nat) : State :=
  { s with streams := s.streams.filter (·.1 ≠ stream) }

/-- The channel of a stream. -/
def channelOf? (s : State) (stream : Nat) : Option (Nat × Channel) := do
  let (_, index) ← s.streams.find? (·.1 = stream)
  return (index, s.channels[index]?.getD .sink)

/-- The bytes of a file with some others written over it from a position on. -/
def overwrite (contents : Bytes) (position : Nat) (bytes : Bytes) : Bytes :=
  contents.take position ++ List.replicate (position - contents.length) 0 ++ bytes ++
    contents.drop (position + bytes.length)

/-- Writes bytes to a stream. -/
def emitTo (s : State) (stream : Nat) (bytes : Bytes) : State :=
  match s.channelOf? stream with
  | some (index, .pipe contents) =>
    { s with channels := s.channels.setIfInBounds index (.pipe (contents ++ bytes)) }
  | some (index, .file place position atEnd) =>
    match s.tree.find? place with
    | some (.file contents mode) =>
      let start := if atEnd then contents.length else position
      { s with
        tree := s.tree.put place (.file (overwrite contents start bytes) mode)
        channels := s.channels.setIfInBounds index (.file place (start + bytes.length) atEnd) }
    | _ => s
  | _ => s

/-- Writes to the output. -/
def emit (s : State) (bytes : Bytes) : State := s.emitTo 1 bytes

/-- Writes a text to the output. -/
def emitText (s : State) (text : String) : State := s.emit (Octet.toBytes text)

/-- Writes a line to the output. -/
def emitLine (s : State) (text : String) : State := s.emitText (text ++ "\n")

/-- What a stream has to read. -/
def available (s : State) (stream : Nat) : Bytes :=
  match s.channelOf? stream with
  | some (_, channel) => channel.contents s.tree
  | none => []

/-- Passes over some bytes of a stream. -/
def advance (s : State) (stream count : Nat) : State :=
  match s.channelOf? stream with
  | some (index, .pipe contents) =>
    { s with channels := s.channels.setIfInBounds index (.pipe (contents.drop count)) }
  | some (index, .file place position atEnd) =>
    { s with channels := s.channels.setIfInBounds index (.file place (position + count) atEnd) }
  | _ => s

/-- Reads all that there is to read from the input. -/
def readInput (s : State) : Bytes × State :=
  let bytes := s.available 0
  (bytes, s.advance 0 bytes.length)

/-- Whether the input can be read from any position. -/
def inputIsFile (s : State) : Bool :=
  match s.channelOf? 0 with
  | some (_, .file ..) => true
  | _ => false

/-! ## Errors -/

/-- Finishes a command with a line among the errors. -/
def complain (s : State) (text : String) (status : Nat) : State :=
  (s.emitTo 2 (Octet.toBytes (text ++ "\n"))).done status

/-- Where the shell is, in front of an error of its own. -/
def position (s : State) : String :=
  let line := match s.dialect with
    | .plain => s!"{s.name}: {s.line}: "
    | .extended => s!"{s.name}: line {s.line}: "
  if s.context.isEmpty then line else line ++ s.context ++ ": "

/-- Finishes a command with an error of the shell itself. -/
def shellError (s : State) (text : String) (status : Nat) : State :=
  s.complain (s.position ++ text) status

/-- Ends the script with an error of the shell itself. -/
def fatal (s : State) (text : String) : State :=
  match s.dialect with
  | .plain => (s.shellError text 2).exit 2
  | .extended => (s.shellError text 1).exit 1

/-! ## Variables -/

/-- The variable of a name. -/
def lookup? (s : State) (name : String) : Option Variable :=
  s.bindings.find? (·.name = name)

/-- The value of a variable. -/
def valueOf? (s : State) (name : String) : Option String :=
  (s.lookup? name).bind (·.value)

/-- Everything that a channel still holds. -/
def drain (s : State) (index : Nat) : Bytes :=
  ((s.channels[index]?).getD .sink).contents s.tree

/-- Puts a variable in the place of the one of its name. -/
def putVariable (s : State) (v : Variable) : State :=
  { s with bindings := v :: s.bindings.filter (·.name ≠ v.name) }

/-- Takes away a variable. -/
def removeVariable (s : State) (name : String) : State :=
  { s with bindings := s.bindings.filter (·.name ≠ name) }

/-- Sets a variable, unless that is not allowed. -/
def assign (s : State) (name value : String) : State :=
  match s.lookup? name with
  | some v =>
    if v.readOnly then s.fatal s!"{name}: is read only"
    else s.putVariable { v with value, exported := v.exported || s.options.exporting }
  | none => s.putVariable ⟨name, value, s.options.exporting, false⟩

/-- The variables that programs see. -/
def exported (s : State) : List Variable :=
  s.bindings.filter fun v => v.exported && v.value.isSome

/-- The letters of what is switched on, the latest in the alphabet first. -/
def optionLetters (s : State) : String :=
  let o := s.options
  String.ofList (([(o.exporting, 'a'), (o.required, 'u'), (o.protect, 'C'), (o.trace, 'x'),
    (o.literal, 'f'), (o.strict, 'e')].filter (·.1)).map (·.2))

/-- What stands between the arguments where they are one text. -/
def joint (s : State) : String :=
  match s.valueOf? "IFS" with
  | some text => String.ofList (text.toList.take 1)
  | none => " "

/-- The value of a parameter with a special name or a number. -/
def special? (s : State) (name : String) : Option String :=
  match name with
  | "#" => some (toString s.arguments.length)
  | "?" => some (toString s.status)
  | "$" => some (toString s.process)
  | "!" => s.background.map toString
  | "-" => some s.optionLetters
  | "0" => some s.name
  | "@" => if s.arguments.isEmpty then none else some (s.joint.intercalate s.arguments)
  | "*" => if s.arguments.isEmpty then none else some (s.joint.intercalate s.arguments)
  | "PPID" => some (toString s.parent)
  | "LINENO" => some (toString s.line)
  | name =>
    if name.toList.all Char.isDigit ∧ name ≠ "" then
      match name.toNat? with
      | some (n + 1) => s.arguments[n]?
      | _ => none
    else none

/-- The value of any parameter that is set. -/
def parameter? (s : State) (name : String) : Option String :=
  match s.special? name with
  | some value => some value
  | none => s.valueOf? name

/-- The value of any parameter; one that is not set is empty. -/
def parameter (s : State) (name : String) : String := (s.parameter? name).getD ""

/-- The characters that a text is cut at. -/
def separators (s : State) : List Char :=
  match s.valueOf? "IFS" with
  | some text => text.toList
  | none => [' ', '\t', '\n']

/-- The characters that turn a bracket of a pattern round. -/
def negations (s : State) : List Char :=
  match s.dialect with
  | .plain => ['!']
  | .extended => ['!', '^']

/-! ## Files -/

/-- What stands at a path. -/
def node (s : State) (path : String) (follow : Bool := true) : Except IoError Node :=
  s.tree.node s.directory (Octet.toPath path) follow

/-- The place of a path. -/
def placeOf (s : State) (path : String) (follow : Bool := true) : Except IoError Place :=
  s.tree.resolve s.directory (Octet.toPath path) follow

/-- The contents of a file. -/
def readFile (s : State) (path : String) : Except IoError Bytes :=
  s.tree.readFile s.directory (Octet.toPath path)

/-- Whether a path leads to a directory. -/
def isDirectory (s : State) (path : String) : Bool :=
  s.tree.isDirectory s.directory (Octet.toPath path)

/-- Goes on with another tree, in success. -/
def withTree (s : State) (tree : FileTree) : State := { s with tree, status := 0 }

/-! ## Processes -/

/-- Goes on with the streams, variables and settings of one state and what another one, which came
from it, did to files, channels and processes. -/
def after (s inner : State) : State :=
  { s with
    tree := inner.tree
    channels := inner.channels
    status := inner.status
    slept := inner.slept
    lastProcess := inner.lastProcess
    pending := inner.pending
    forScript := inner.forScript
    forParent := inner.forParent
    flow := match inner.flow with
      | .killed signal => .killed signal
      | _ => s.flow }

/-- How a script ended. -/
def exitStatus (s : State) : ExitStatus :=
  match s.flow with
  | .killed signal => .signaled signal
  | _ => .exited (s.status % 256)

end State

end WasmBindings.Shell
