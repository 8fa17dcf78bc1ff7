import WasmBindings.Shell.Builtin
import WasmBindings.Shell.Calculation
import WasmBindings.Shell.Characters.Blocks
import WasmBindings.Shell.Characters.Translation
import WasmBindings.Shell.Editing.Editor
import WasmBindings.Shell.Files.Directories
import WasmBindings.Shell.Files.Listing
import WasmBindings.Shell.Files.Properties
import WasmBindings.Shell.Lines.Columns
import WasmBindings.Shell.Lines.Comparison
import WasmBindings.Shell.Lines.Numbers
import WasmBindings.Shell.Lines.Order
import WasmBindings.Shell.Lines.Shape
import WasmBindings.Shell.Search

/-!
# Starting programs

A program is started by the path of its file: a program of the system, or a script, whose first line
names the program that reads it. Programs can start others; so a starter is handed on to them.
-/

namespace WasmBindings.Shell

/-- How to start a program: by its path, with arguments, in a state in which its own name stands. -/
abbrev Starter := (path : String) → (arguments : List String) → State → Except IoError State

/-! ## Children -/

namespace State

/-- The state in which a program starts that another one runs. -/
def child (s : State) (name : String) : State :=
  { s with
    name
    process := s.lastProcess + 1
    parent := s.process
    lastProcess := s.lastProcess + 1
    bindings := s.exported.map ({ · with readOnly := false })
    functions := []
    hidden := []
    arguments := []
    status := 0
    context := ""
    loops := 0
    taken := none
    options := {}
    tested := false
    flow := .running
    jobs := []
    background := none
    traps := s.traps.filter (·.2.isEmpty)
    pending := []
    isPart := false
    forScript := []
    forParent := []
    trapStatus := none
    dialect := .plain
    optionLetter := 0
    optionIndex := 1
    depth := s.depth + 1 }

/-- Goes on after a program that has run to its end. -/
def afterChild (s inner : State) : State :=
  let s := { s with
    tree := inner.tree
    channels := inner.channels
    slept := inner.slept
    lastProcess := inner.lastProcess }
  let s := inner.forParent.foldl State.receive s
  match inner.flow with
  | .killed signal => s.buried signal
  | _ => s.done (inner.status % 256)

end State

/-- Starts a program that is looked for unless its name is a path. A file that is no program is
taken for a script. -/
def startNamed (start : Starter) (usual name : String) (arguments : List String) (s : State) :
    Except IoError State :=
  let begin (path : String) : Except IoError State :=
    match start path arguments { s with name } with
    | .error .notAProgram =>
      match s.readFile path with
      | .ok (0x7f :: _) => .error .notAProgram
      | _ => start "/bin/sh" (path :: arguments) { s with name := path }
    | outcome => outcome
  if name.toList.contains '/' then begin name
  else
    match locate s name usual with
    | .found path => begin path
    | .forbidden => .error .permissionDenied
    | .absent => .error .notFound

/-! ## Shells -/

/-- Where a shell reads its script, as far as its options have been read. -/
structure Invocation where
  options : Options := {}
  fromText : Bool := false
  fromInput : Bool := false
  words : List String := []
  deriving Inhabited

/-- Reads the options of a shell. The fuel bounds the number of words. -/
def readInvocation (dialect : Dialect) : (fuel : Nat) → Invocation → List String →
    Except String Invocation
  | 0, i, words => .ok { i with words }
  | _, i, [] => .ok { i with words := [] }
  | fuel + 1, i, word :: words =>
    match word.toList with
    | ['-', '-'] | ['-'] => .ok { i with words }
    | '-' :: '-' :: _ =>
      if dialect = .extended then readInvocation dialect fuel i words
      else .error "Illegal option --"
    | '-' :: letters | '+' :: letters => do
      let on := word.toList.head? = some '-'
      let own := ['c', 's', 'i', 'l']
      let (options, words) ←
        Settings.switchAll dialect on (letters.filter fun c => !own.contains c) words i.options
      let i := { i with
        options
        fromText := i.fromText || letters.contains 'c'
        fromInput := i.fromInput || letters.contains 's' }
      readInvocation dialect fuel i words
    | _ => .ok { i with words := word :: words }

/-- Runs a shell. -/
def runShell (run : Runner) (dialect : Dialect) (arguments : List String) (s : State) : State :=
  let s := { s with dialect, line := 0 }
  let s := if (s.lookup? "PWD").isSome then s
    else s.putVariable ⟨"PWD", some (Builtin.pathOf s.directory), true, false⟩
  let s := if (s.lookup? "PATH").isSome then s
    else s.putVariable ⟨"PATH", some usualPath, false, false⟩
  let go (text name : String) (arguments : List String) (s : State) : State :=
    finish run (runText run text { s with name, arguments, line := 1 })
  match readInvocation dialect (arguments.length + 1) {} arguments with
  | .error text => s.shellError text 2
  | .ok i =>
    let s := { s with options := i.options }
    match i.words with
    | text :: rest =>
      if i.fromText then go text (rest.head?.getD s.name) (rest.drop 1) s
      else if i.fromInput then
        let (bytes, s) := s.readInput
        go (Octet.ofBytes bytes) s.name i.words s
      else
        match s.node text, s.readFile text, dialect with
        | .ok (.directory), _, .plain => s.done 0
        | _, .ok contents, _ =>
          go (Octet.ofBytes (contents.filter (· ≠ 0))) text rest s
        | _, .error _, .plain => s.shellError ("cannot open " ++ text ++ ": No such file") 2
        | _, .error e, .extended => s.complain (s.name ++ ": " ++ text ++ ": " ++ e.reason) 127
    | [] =>
      if i.fromText then
        match dialect with
        | .plain => s.shellError "-c requires an argument" 2
        | .extended => s.complain (s.name ++ ": -c: option requires an argument") 2
      else
        let (bytes, s) := s.readInput
        go (Octet.ofBytes bytes) s.name [] s

/-! ## Programs that start others -/

/-- Finishes with the error of a program that could not start another one. -/
def cannotStart (program name : String) (e : IoError) (s : State) : State :=
  s.complain (program ++ ": '" ++ name ++ "': " ++ e.reason) (if e = .notFound then 127 else 126)

/-- Puts a program in the place of the one that starts it. -/
def become (start : Starter) (program name : String) (arguments : List String) (s : State) :
    State :=
  match startNamed start usualPath name arguments s with
  | .ok s => s
  | .error e =>
    match program with
    | "env" | "nohup" | "nice" | "timeout" => cannotStart program name e s
    | _ => s.complain (program ++ ": " ++ name ++ ": " ++ e.reason)
        (if e = .notFound then 127 else 126)

/-- Cuts a text into words at blanks outside of quotes. The fuel bounds the number of characters. -/
def quotedWords : (fuel : Nat) → (word : Option (List Char)) → List Char → List String
  | 0, word, _ | _, word, [] => (word.map String.ofList).toList
  | fuel + 1, word, c :: rest =>
    let soFar := word.getD []
    if c = '\'' ∨ c = '"' then
      let inner := rest.takeWhile (· ≠ c)
      quotedWords fuel (some (soFar ++ inner)) (rest.drop (inner.length + 1))
    else if c = '\\' then quotedWords fuel (some (soFar ++ rest.take 1)) (rest.drop 1)
    else if [' ', '\t', '\n', '\r', '\x0b', '\x0c'].contains c then
      (word.map String.ofList).toList ++ quotedWords fuel none rest
    else quotedWords fuel (some (soFar ++ [c])) rest

/-- The options of `env`. -/
def environmentUsage : Usage :=
  { program := "env", flags := "i0v", valued := "uCS", status := 125, strict := true
    long := [("ignore-environment", 'i'), ("null", '0'), ("unset", 'u'), ("chdir", 'C'),
      ("split-string", 'S')] }

/-- Runs a program with other variables, or shows the variables. -/
def env (start : Starter) : Program := environmentUsage.run fun settings operands s =>
  let split := settings.flatMap fun o =>
    if o.letter = 'S' then
      quotedWords (o.value.length + 1) none o.value.toList
    else []
  let operands := split ++ operands
  let (cleared, operands) := match operands with
    | "-" :: rest => (true, rest)
    | "-i" :: rest => (true, rest)
    | rest => (false, rest)
  let s := if cleared ∨ given settings "i" then { s with bindings := [] } else s
  let s := settings.foldl (fun s o => if o.letter = 'u' then s.removeVariable o.value else s) s
  let assigns (word : String) : Bool := word.toList.contains '='
  let s := (operands.takeWhile assigns).foldl (fun s word =>
    let (name, value) := Settings.divided word
    s.putVariable ⟨name, value, true, false⟩) s
  let moved : Except State State := match valueOf? settings 'C' with
    | none => .ok s
    | some path =>
      match s.placeOf path with
      | .ok directory =>
        if s.tree.find? directory = some .directory then .ok { s with directory }
        else .error (s.complain ("env: cannot change directory to '" ++ path ++
          "': No such file or directory") 125)
      | .error e => .error (s.complain ("env: cannot change directory to '" ++ path ++ "': " ++
          e.reason) 125)
  match moved, operands.dropWhile assigns with
  | .error s, _ => s
  | .ok s, [] =>
    let ending := if given settings "0" then "\x00" else "\n"
    s.exported.reverse.foldl (fun s v =>
      s.emitText (v.name ++ "=" ++ v.value.getD "" ++ ending)) s
  | .ok s, name :: arguments => become start "env" name arguments s

/-- Runs a program with the same arguments as another one would, after some operands of its own. -/
def wrapper (start : Starter) (u : Usage) (own : Nat) : Program := u.run fun _ operands s =>
  match operands.drop own with
  | name :: arguments => become start u.program name arguments s
  | [] => u.refuse s "missing operand"

/-- The options of `xargs`. -/
def feeding : Usage :=
  { program := "xargs", flags := "0rtx", valued := "nILdPs", strict := true
    long := [("null", '0'), ("no-run-if-empty", 'r'), ("max-args", 'n'), ("replace", 'I'),
      ("max-lines", 'L'), ("delimiter", 'd')] }

/-- Groups of some size. The fuel bounds their number. -/
def groupsOf {α : Type} (size : Nat) : (fuel : Nat) → List α → List (List α)
  | 0, _ | _, [] => []
  | fuel + 1, items => items.take size :: groupsOf size fuel (items.drop size)

/-- A text in which another one stands in the place of a mark. -/
def filledIn (mark value text : String) : String :=
  if mark.isEmpty then text else value.intercalate (text.splitOn mark)

/-- Runs a program with arguments from the input. -/
def xargs (start : Starter) : Program := feeding.run fun settings operands s =>
  let (bytes, s) := s.readInput
  let text := charsOf bytes
  let items :=
    if given settings "0" then
      ((splitAt '\x00' text).map String.ofList).filter (· ≠ "")
    else
      match valueOf? settings 'd', valueOf? settings 'I' with
      | some mark, _ =>
        let c := match mark.toList with
          | ['\\', 'n'] => '\n'
          | ['\\', 't'] => '\t'
          | ['\\', '0'] => '\x00'
          | c :: _ => c
          | [] => '\n'
        let pieces := (splitAt c text).map String.ofList
        if pieces.getLast? = some "" then pieces.dropLast else pieces
      | none, some _ =>
        ((linesOf text).map fun line =>
          String.ofList (line.dropWhile fun c => c = ' ' ∨ c = '\t')).filter (· ≠ "")
      | none, none => quotedWords (text.length + 1) none text
  let (name, fixed) := match operands with
    | name :: fixed => (name, fixed)
    | [] => ("echo", [])
  let rounds : List (List String) := match valueOf? settings 'I' with
    | some mark => items.map fun item => fixed.map (filledIn mark item)
    | none =>
      let size := ((valueOf? settings 'n').bind String.toNat?).getD (max 1 items.length)
      let groups := groupsOf (max 1 size) (items.length + 1) items
      (if groups.isEmpty ∧ !given settings "r" then [[]] else groups).map (fixed ++ ·)
  rounds.foldl (fun s arguments =>
    if s.status = 127 ∨ s.status = 126 ∨ s.status = 124 then s
    else
      let before := s.status
      match startNamed start usualPath name arguments (s.child name) with
      | .error e => s.complain ("xargs: " ++ name ++ ": " ++ e.reason)
          (if e = .notFound then 127 else 126)
      | .ok inner =>
        let ended := s.afterChild inner
        if ended.status = 0 then ended.done before
        else if ended.status = 255 then
          ended.complain ("xargs: " ++ name ++ ": exited with status 255; aborting") 124
        else ended.done 123) s

/-! ## All programs -/

/-- A program that prints a line. -/
def printing (line : String) : Program := fun _ s => (s.emitLine line).done 0

/-- Sleeps for a while. -/
def sleep : Program := fun words s =>
  match words with
  | [] => Usage.refuse { program := "sleep" } s "missing operand"
  | words =>
    match words.find? fun w =>
      !(w.toList.all fun c => c.isDigit || c == '.' || ['s', 'm', 'h', 'd'].contains c) with
    | some word => Usage.refuse { program := "sleep" } s ("invalid time interval '" ++ word ++ "'")
    | none => { s with slept := s.slept + 1, status := 0 }

/-- Shows the values of variables. -/
def printenv : Program := fun names s =>
  match names with
  | [] => s.exported.reverse.foldl (fun s v => s.emitLine (v.name ++ "=" ++ v.value.getD "")) s
  | names => names.foldl (fun s name =>
    match s.exported.find? (·.name = name) with
    | some v => s.emitLine (v.value.getD "")
    | none => s.done 1) (s.done 0)

/-- Tells which programs names stand for. -/
def which : Program := fun words s =>
  (words.filter fun w => w.toList.head? ≠ some '-').foldl (fun s name =>
    let found := if name.toList.contains '/' then
        match s.node name with
        | .ok node => if node.isExecutable then some name else none
        | .error _ => none
      else
        match locate s name with
        | .found path => some path
        | _ => none
    match found with
    | some path => s.emitLine path
    | none => s.done 1) (s.done 0)

/-- Carries out a command of the shell as a program. -/
def asProgram (name : String) (builtin : Builtin) : Program := fun arguments s =>
  let run : Runner := fun _ s => s
  match builtin run arguments { s with dialect := .extended } with
  | .ok inner => inner
  | .error text => s.complain (name ++ ": " ++ text) (if name = "test" ∨ name = "[" then 2 else 1)

/-- The programs that need no other programs. -/
def programs : List (String × Program) :=
  [("[", asProgram "[" Builtin.bracket), ("base64", Characters.base64),
    ("basename", Files.basename), ("cat", Lines.cat), ("chmod", Files.chmod),
    ("cmp", Lines.cmp), ("comm", Lines.comm), ("cp", Files.cp), ("cut", Lines.cut),
    ("dd", Characters.dd), ("dirname", Files.dirname),
    ("echo", asProgram "echo" Builtin.echo), ("egrep", Search.egrep), ("expand", Lines.expand),
    ("expr", Calculation.expr),
    ("false", fun _ s => s.done 1), ("fgrep", Search.fgrep), ("fold", Lines.fold),
    ("grep", Search.grep), ("head", Lines.head),
    ("hostname", printing "localhost"), ("install", Files.install),
    ("kill", asProgram "kill" Signals.kill), ("ln", Files.ln), ("ls", Files.ls),
    ("mkdir", Files.mkdir), ("mktemp", Files.mktemp), ("mv", Files.mv), ("nl", Lines.nl),
    ("nproc", printing "1"), ("od", Characters.od), ("paste", Lines.paste),
    ("printenv", printenv), ("printf", asProgram "printf" Builtin.printf),
    ("pwd", asProgram "pwd" Builtin.pwd), ("readlink", Files.readlink),
    ("realpath", Files.realpath), ("rev", Lines.rev), ("rm", Files.rm),
    ("rmdir", Files.rmdir), ("sed", Editing.sed), ("seq", Lines.seq), ("sleep", sleep),
    ("sort", Lines.sort),
    ("split", Characters.split), ("stat", Files.stat), ("sync", fun _ s => s.done 0),
    ("tac", Lines.tac), ("tail", Lines.tail), ("tee", Lines.tee),
    ("test", asProgram "test" Builtin.test), ("touch", Files.touch), ("tr", Characters.tr),
    ("true", fun _ s => s.done 0), ("truncate", Files.truncate), ("uname", printing "Linux"),
    ("uniq", Lines.uniq), ("wc", Lines.wc), ("which", which), ("whoami", printing "root"),
    ("yes", Characters.yes)]

/-- The programs that start others. -/
def startingPrograms (run : Runner) (start : Starter) : List (String × Program) :=
  let simple (program valued : String) (own : Nat) : Program :=
    wrapper start { program, flags := "pvf", valued, status := 125, strict := true } own
  [("sh", runShell run .plain), ("dash", runShell run .plain), ("bash", runShell run .extended),
    ("env", env start), ("xargs", xargs start), ("nohup", simple "nohup" "" 0),
    ("nice", simple "nice" "n" 0), ("timeout", simple "timeout" "ks" 1),
    ("setsid", simple "setsid" "" 0), ("stdbuf", simple "stdbuf" "ioe" 0)]

/-- The names of all programs of the system. -/
def programNames : List String :=
  programs.map (·.1) ++ (startingPrograms (fun _ s => s) fun _ _ _ => .error .notFound).map (·.1)

/-- Runs a program of the system. -/
def runProgram (run : Runner) (start : Starter) (name : String) : Program :=
  match (startingPrograms run start ++ programs).find? (·.1 = name) with
  | some (_, program) => program
  | none => fun _ s => s.done 127

/-! ## Files -/

/-- Whether a byte is a blank of the first line of a script. -/
def isBlankByte (b : UInt8) : Bool := b == 0x20 || b == 0x09

/-- The program that a line names, and its argument if it has one; a NUL ends both. -/
def interpreterIn (line : Bytes) : Except IoError (String × Option String) :=
  let line := ((line.dropWhile isBlankByte).reverse.dropWhile isBlankByte).reverse
  if line.isEmpty then .error .notAProgram
  else
    let name := line.takeWhile fun b => !isBlankByte b && b != 0
    let argument? := match line.drop name.length with
      | 0 :: _ | [] => none
      | rest => some (Octet.ofBytes ((rest.dropWhile isBlankByte).takeWhile (· ≠ 0)))
    .ok (Octet.ofBytes name, argument?)

/-- How many bytes of a script are looked at to find out what reads it. -/
def headSize : Nat := 256

/-- The program that reads a script, as its first line says, and the argument for it. A line that
does not end within the first bytes of the script counts if the name in it does. -/
def interpreter? (contents : Bytes) : Except IoError (String × Option String) :=
  let head := contents.take headSize
  match head ++ List.replicate (headSize - head.length) 0 with
  | 0x23 :: 0x21 :: rest =>
    let line := rest.takeWhile fun b => b ≠ 0x0a && b ≠ 0
    if rest[line.length]? = some 0x0a then interpreterIn line
    else
      let body := rest.dropWhile isBlankByte
      if body.any fun b => isBlankByte b || b == 0 then interpreterIn (rest.take (headSize - 3))
      else .error .notAProgram
  | _ => .error .notAProgram

/-- How many scripts can be read by each other. -/
def scriptLimit : Nat := 5

/-- Starts what stands at a path. The fuel bounds how many programs start each other without a shell
between them; `scripts` of them are scripts so far. -/
def execute (run : Runner) : (fuel : Nat) → (scripts : Nat) → Starter
  | 0, _ => fun _ _ _ => .error .tooManyLinks
  | fuel + 1, scripts => fun path arguments s => do
    match ← s.node path with
    | .program name => return runProgram run (execute run fuel 0) name arguments s
    | .file contents mode =>
      if !Node.canRun mode then throw .permissionDenied
      let (name, argument?) ← interpreter? contents
      if scriptLimit ≤ scripts then throw .tooManyLinks
      if name.isEmpty then throw .permissionDenied
      execute run fuel (scripts + 1) name (argument?.toList ++ path :: arguments) { s with name }
    | _ => throw .permissionDenied

end WasmBindings.Shell
