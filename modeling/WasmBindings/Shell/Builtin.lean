import WasmBindings.Shell.Condition
import WasmBindings.Shell.Lookup
import WasmBindings.Shell.Printing
import WasmBindings.Shell.Settings

/-!
# Commands of the shell

The commands that the shell carries out itself because they act on its own state, or because they
are used so often.
-/

namespace WasmBindings.Shell.Builtin

/-- Does nothing, with a status. -/
def constant (status : Nat) : Builtin := fun _ _ s => .ok (s.done status)

/-! ## Printing -/

/-- Prints the arguments. -/
def echo : Builtin := fun _ arguments s =>
  .ok ((s.emit ((Printing.echo s.dialect arguments).map Octet.toByte)).done 0)

/-- What is wrong with an argument that is no number. -/
def complaint (dialect : Dialect) (c : Printing.Complaint) : String :=
  match dialect, c with
  | .plain, c => c.message
  | .extended, .outOfRange text =>
    "warning: " ++ String.ofList text ++ ": Numerical result out of range"
  | .extended, .notNumeric text | .extended, .trailing text =>
    String.ofList text ++ ": invalid number"

/-- Prints arguments in a format. -/
def printf : Builtin := fun _ arguments s =>
  match if arguments.head? = some "--" then arguments.drop 1 else arguments with
  | [] => .error "usage: printf format [arg ...]"
  | "-v" :: name :: format :: arguments =>
    if s.dialect = .extended then
      let printed := Printing.printf s.dialect format arguments
      .ok ((s.assign name (String.ofList printed.text)).done 0)
    else .error "Illegal option -v"
  | format :: arguments =>
    let printed := Printing.printf s.dialect format arguments
    let s := printed.complaints.foldl (fun s c => s.shellError (complaint s.dialect c) 1) s
    let s := s.emit (printed.text.map Octet.toByte)
    match printed.error with
    | some text => .error text
    | none => .ok (s.done (if printed.complaints.isEmpty then 0 else 1))

/-! ## Conditions -/

/-- Finishes with the truth of a condition. -/
def decide (words : List String) (s : State) : Except String State := do
  return s.done (if ← Condition.truth s words then 0 else 1)

/-- Finds out whether a condition holds. -/
def test : Builtin := fun _ words s => decide words s

/-- Finds out whether a condition holds that ends in a bracket. -/
def bracket : Builtin := fun _ words s =>
  if words.getLast? = some "]" then decide words.dropLast s
  else
    match s.dialect with
    | .plain => .error "missing ]"
    | .extended => .error "missing \x60]'"

/-! ## Directories -/

/-- The path of a place, as a text of bytes. -/
def pathOf (place : Place) : String := Octet.ofText ("/" ++ "/".intercalate place)

/-- Goes to another directory. -/
def cd : Builtin := fun _ words s =>
  let words := words.filter fun w => !(["-L", "-P", "--"].contains w)
  let target? := match words with
    | [] => s.valueOf? "HOME"
    | "-" :: _ => s.valueOf? "OLDPWD"
    | path :: _ => some path
  match target? with
  | none => .ok (s.done 0)
  | some target =>
    let place := s.placeOf (if target.isEmpty then "." else target)
    match place with
    | .ok place =>
      if s.tree.find? place = some .directory then
        let before := pathOf s.directory
        let s := { s with directory := place }
        let s := (s.assign "OLDPWD" before).assign "PWD" (pathOf place)
        .ok ((if words.head? = some "-" then s.emitLine (pathOf place) else s).done 0)
      else failed s target (if (s.tree.find? place).isSome then .notADirectory else .notFound)
    | .error e => failed s target e
where
  /-- A directory cannot be gone to. -/
  failed (s : State) (target : String) (e : IoError) : Except String State :=
    match s.dialect with
    | .plain => .error ("can't cd to " ++ target)
    | .extended => .error (target ++ ": " ++ e.reason)

/-- Tells the directory that the script works in. -/
def pwd : Builtin := fun _ _ s => .ok ((s.emitLine (pathOf s.directory)).done 0)

/-! ## The flow of the script -/

/-- The status that an argument asks for. -/
def statusOf (words : List String) (fallback : Nat) : Except String Nat :=
  match words with
  | [] => .ok fallback
  | word :: _ => naturalOf word

/-- Ends the script. -/
def exit : Builtin := fun _ words s => do
  return s.exit (← statusOf words (s.trapStatus.getD s.status))

/-- Ends the function, or the file that is being read. -/
def «return» : Builtin := fun _ words s => do
  let status ← statusOf words s.status
  return { s with status, flow := .returning }

/-- Leaves loops. -/
def leave (again : Bool) : Builtin := fun _ words s => do
  let levels ← statusOf words 1
  if levels = 0 then throw ("Illegal number: " ++ words.head?.getD "")
  if s.loops = 0 then return s.done 0
  return { s with status := 0, flow := .leaving (min levels s.loops) again }

/-- Runs the arguments as a text of commands. -/
def eval : Builtin := fun run words s =>
  .ok (runWithin run "eval" (" ".intercalate words) s)

/-- The file that a name stands for when it is read for commands. -/
def sourcePath? (s : State) (name : String) : Option String :=
  if name.toList.contains '/' then some name
  else
    let paths := (searchPath s).map (pathIn · name) ++
      if s.dialect = .extended then [name] else []
    paths.find? fun path => ((s.node path).toOption matches some (.file ..))

/-- Runs the commands of a file. -/
def source : Builtin := fun run words s =>
  match words with
  | [] => .ok (s.done 0)
  | name :: arguments =>
    match sourcePath? s name with
    | none =>
      .error (name ++ match s.dialect with
        | .plain => ": not found"
        | .extended => ": No such file or directory")
    | some path =>
      match s.readFile path, s.dialect with
      | .error _, .plain => .error ("cannot open " ++ path ++ ": No such file")
      | .error e, .extended => .error (path ++ ": " ++ e.reason)
      | .ok contents, dialect =>
        let replaced := dialect = .extended ∧ !arguments.isEmpty
        let inner := runWithin run path (Octet.ofBytes contents)
          (if replaced then { s with arguments } else s)
        let inner := if replaced then { inner with arguments := s.arguments } else inner
        .ok (if inner.flow = .returning then { inner with flow := .running } else inner)

/-! ## Names -/

/-- Tells in words what a name stands for. -/
def describe (s : State) (name : String) : State :=
  if (keywords s.dialect).contains name then s.emitLine (name ++ " is a shell keyword")
  else
    match meaningOf s name with
    | .builtin special =>
      s.emitLine (name ++
        if special ∧ s.dialect = .plain then " is a special shell builtin"
        else " is a shell builtin")
    | .function _ =>
      s.emitLine (name ++ if s.dialect = .plain then " is a shell function" else " is a function")
    | .program path => s.emitLine (name ++ " is " ++ path)
    | .nothing =>
      match s.dialect with
      | .plain => (s.emitLine (name ++ ": not found")).done 127
      | .extended => s.shellError (name ++ ": not found") 1

/-- Tells in words what names stand for. -/
def type : Builtin := fun _ words s => .ok (words.foldl describe (s.done 0))

/-- Tells what would run for a name. -/
def tell (s : State) (name : String) : State :=
  if (keywords s.dialect).contains name then (s.emitLine name).done 0
  else
    match meaningOf s name with
    | .builtin _ | .function _ => (s.emitLine name).done 0
    | .program path => (s.emitLine path).done 0
    | .nothing => s.done (if s.dialect = .plain then 127 else 1)

/-- Looks programs up for later. -/
def hash : Builtin := fun _ words s =>
  .ok ((words.filter fun w => w.toList.head? ≠ some '-').foldl (fun s name =>
    match locate s name with
    | .found _ => s
    | _ => s.shellError (name ++ ": not found") 1) (s.done 0))

/-- Tells how much time has been used. -/
def times : Builtin := fun _ _ s =>
  .ok (((s.emitLine "0m0.000000s 0m0.000000s").emitLine "0m0.000000s 0m0.000000s").done 0)

/-- Tells which rights new files do not get. -/
def umask : Builtin := fun _ words s =>
  let octal (n : Nat) : List Char := [n / 64, n / 8, n].map fun d => Nat.digitChar (d % 8)
  let letters (n : Nat) : String :=
    let n := n % 8
    let kept := [(4, 'r'), (2, 'w'), (1, 'x')].filter fun (bit, _) => n / bit % 2 = 0
    String.ofList (kept.map (·.2))
  match words with
  | [] => .ok ((s.emitLine (String.ofList ('0' :: octal s.mask))).done 0)
  | "-S" :: _ => .ok ((s.emitLine ("u=" ++ letters (s.mask / 64) ++ ",g=" ++ letters (s.mask / 8) ++
      ",o=" ++ letters s.mask)).done 0)
  | word :: _ =>
    if word.toList.all isOctal then
      .ok { s with mask := valueOfDigits 8 word.toList % 0o1000, status := 0 }
    else if word.toList.all fun c =>
      ['u', 'g', 'o', 'a', '=', '+', '-', 'r', 'w', 'x', ','].contains c then .ok (s.done 0)
    else .error ("Illegal mode: " ++ word)

/-- Computes expressions; the status says whether the last one is not zero. -/
def computeAll : Builtin := fun _ words s =>
  let (last, s) := words.foldl (fun (_, s) word => computeOne s word.toList) (0, s)
  .ok (if s.isRunning then s.done (if last = 0 then 1 else 0) else s)
where
  /-- Computes one expression. -/
  computeOne (s : State) (expression : List Char) : Int × State :=
    let texts (name : List Char) : List Char := (s.parameter (String.ofList name)).toList
    match Arithmetic.evaluate true texts expression with
    | .error failure => (0, s.fatal (failure.message expression))
    | .ok (n, changes) =>
      (n, changes.reverse.foldl (fun s (name, value) =>
        s.assign (String.ofList name) (toString value)) s)

/-- Sets and marks variables. -/
def declareVariables : Builtin := fun run words s =>
  let flags := (words.filter fun w => w.toList.head? = some '-').flatMap String.toList
  let names := words.filter fun w => w.toList.head? ≠ some '-'
  if flags.contains 'x' then Settings.exportVariables run names s
  else if flags.contains 'r' then Settings.protectVariables run names s
  else if s.hidden.isEmpty ∨ flags.contains 'g' then
    Settings.mark id names (s.done 0)
  else Settings.localVariables run names s

/-! ## All commands -/

/-- The command of a name. -/
def ofName? (dialect : Dialect) (name : String) : Option Builtin :=
  match name, dialect with
  | ":", _ | "true", _ | "alias", _ | "unalias", _ | "bg", _ | "fg", _ | "jobs", _ |
    "ulimit", _ | "shopt", .extended => some (constant 0)
  | "false", _ => some (constant 1)
  | ".", _ | "source", .extended => some source
  | "break", _ => some (leave false)
  | "continue", _ => some (leave true)
  | "eval", _ => some eval
  | "exit", _ => some exit
  | "export", _ => some Settings.exportVariables
  | "readonly", _ => some Settings.protectVariables
  | "return", _ => some «return»
  | "set", _ => some Settings.set
  | "shift", _ => some Settings.shift
  | "times", _ => some times
  | "trap", _ => some Signals.trap
  | "unset", _ => some Settings.unset
  | "[", _ => some bracket
  | "test", _ => some test
  | "cd", _ => some cd
  | "echo", _ => some echo
  | "printf", _ => some printf
  | "getopts", _ => some Settings.getopts
  | "hash", _ => some hash
  | "kill", _ => some Signals.kill
  | "local", _ => some Settings.localVariables
  | "pwd", _ => some pwd
  | "read", _ => some Settings.read
  | "type", _ => some type
  | "umask", _ => some umask
  | "wait", _ => some Signals.wait
  | "let", .extended => some computeAll
  | "declare", .extended | "typeset", .extended => some declareVariables
  | _, _ => none

/-- Carries out a command of the shell. If it is used wrongly and counts as special, that is the end
of the script. -/
def perform (run : Runner) (builtin : Builtin) (special : Bool) (name : String)
    (arguments : List String) (s : State) : State :=
  let context := s.context
  match builtin run arguments { s with context := name } with
  | .ok s => { s with context }
  | .error text =>
    let inner := { s with context := name }
    let failed := match s.dialect with
      | .plain => if special then inner.fatal text else inner.shellError text 2
      | .extended => inner.shellError text (if name = "test" ∨ name = "[" then 2 else 1)
    { failed with context }

end WasmBindings.Shell.Builtin
