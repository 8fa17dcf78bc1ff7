import WasmBindings.Shell.Session

/-!
# Signals and jobs

The commands that send signals, say what is to be done when one comes, and wait for commands that
run beside the script.
-/

namespace WasmBindings.Shell

/-- A command of the shell itself, which may be used wrongly. -/
abbrev Builtin := Runner → List String → State → Except String State

/-- The number that an argument has to be. -/
def naturalOf (text : String) : Except String Nat :=
  let digits := text.toList
  if !digits.isEmpty ∧ digits.all Char.isDigit then .ok (valueOfDigits 10 digits)
  else .error ("Illegal number: " ++ text)

namespace Signals

/-- How many signals there are, those without a name included. -/
def count : Nat := 65

/-- The name of a signal without the letters that all names have in front. -/
def name? (number : Nat) : Option String :=
  (ExitStatus.signalNames.find? (·.1 = number)).map fun (_, name) =>
    String.ofList (name.toList.drop 3)

/-- A text without the letters that the names of all signals have in front. -/
def withoutFront (text : List Char) : List Char :=
  if ['S', 'I', 'G'].isPrefixOf (text.map Char.toUpper) then text.drop 3 else text

/-- The signal that a text stands for, by its name or number. -/
def number? (dialect : Dialect) (text : String) : Option Nat :=
  let letters := text.toList
  if !letters.isEmpty ∧ letters.all Char.isDigit then
    let n := valueOfDigits 10 letters
    if n < count then some n else none
  else
    let letters := if dialect = .extended then withoutFront letters else letters
    let wanted := String.ofList (letters.map Char.toUpper)
    (ExitStatus.signalNames.find? fun (_, name) =>
      String.ofList (name.toList.drop 3) = wanted).map (·.1)

/-! ## Sending -/

/-- Whether there is a process that a signal can be sent to, and the state after that. -/
def send (s : State) (signal process : Nat) : Option State :=
  if process = s.process then
    some (if s.isPart then { s with forScript := s.forScript ++ [signal] } else s.receive signal)
  else if s.jobs.any (·.process = process) then
    some { s with jobs := s.jobs.map fun j =>
      if j.process = process ∧ j.command.isSome ∧ signal ≠ 0 ∧ !harmlessSignals.contains signal then
        { j with signal := some signal }
      else j }
  else if process = s.parent ∧ 0 < s.depth then
    some { s with forParent := s.forParent ++ [signal] }
  else none

/-- Sends a signal to some processes. -/
def sendAll (signal : Nat) : List String → State → Except String State
  | [], s => .ok s
  | target :: rest, s => do
    let process ← match target.toList with
      | '-' :: digits => naturalOf (String.ofList digits)
      | '%' :: digits =>
        match s.jobs[valueOfDigits 10 digits - 1]? with
        | some job => pure job.process
        | none => throw ("No such job: " ++ target)
      | _ => naturalOf target
    let s := match send s signal process with
      | some s => s
      | none =>
        match s.dialect with
        | .plain => s.shellError "No such process\n" 1
        | .extended => s.shellError ("(" ++ target ++ ") - No such process") 1
    sendAll signal rest s

/-- How the command that sends signals is used. -/
def usage : String :=
  "Usage: kill [-s sigspec | -signum | -sigspec] [pid | job]... or\nkill -l [exitstatus]"

/-- Lists the names of all signals, or tells that of one. -/
def list (arguments : List String) (s : State) : Except String State :=
  match arguments with
  | [] => .ok ((ExitStatus.signalNames.foldl (fun s (number, _) =>
      s.emitLine ((name? number).getD "")) (s.emitLine "0")).done 0)
  | text :: _ => do
    let n ← naturalOf text
    let n := if 128 < n then n - 128 else n
    match name? n with
    | some name => return (s.emitLine name).done 0
    | none => throw ("invalid signal number or exit status: " ++ text)

/-- Sends a signal. -/
def kill : Builtin := fun _ arguments s =>
  let named (text : String) (rest : List String) : Except String State :=
    match number? s.dialect text with
    | some signal => if rest.isEmpty then .error usage else sendAll signal rest (s.done 0)
    | none => .error ("invalid signal number or name: " ++ text)
  match arguments with
  | [] => .error usage
  | "--" :: rest => if rest.isEmpty then .error usage else sendAll 15 rest (s.done 0)
  | "-l" :: rest => list rest s
  | "-s" :: name :: rest => named name rest
  | ["-s"] => .error "No arg for -s option"
  | first :: rest =>
    match first.toList with
    | '-' :: c :: letters =>
      match number? s.dialect (String.ofList (c :: letters)) with
      | some signal => if rest.isEmpty then .error usage else sendAll signal rest (s.done 0)
      | none =>
        if c = 's' then named (String.ofList letters) rest
        else if s.dialect = .extended ∧ c = 'n' ∧ letters.isEmpty then
          named (rest.head?.getD "") (rest.drop 1)
        else .error ("Illegal option -" ++ c.toString)
    | _ => sendAll 15 arguments (s.done 0)

/-! ## Traps -/

/-- A text in single quotes. -/
def inQuotes (text : String) : String :=
  "'" ++ "'\"'\"'".intercalate (text.splitOn "'") ++ "'"

/-- The signal that a text stands for, or the end of the script. -/
def condition? (dialect : Dialect) (text : String) : Option Nat :=
  if text.toList.map Char.toUpper = ['E', 'X', 'I', 'T'] then some 0
  else number? dialect text

/-- The name of a signal, or of the end of the script. -/
def conditionName (number : Nat) : String := if number = 0 then "EXIT" else (name? number).getD ""

/-- Sets what is to be done on some signals; nothing is set without an action. -/
def setTraps (action : Option String) (conditions : List String) (s : State) : State :=
  conditions.foldl (fun s text =>
    match condition? s.dialect text with
    | none => s.complain ("trap: " ++ text ++ ": bad trap") 1
    | some number =>
      let others := s.traps.filter (·.1 ≠ number)
      { s with traps := match action with
          | some action => others ++ [(number, action)]
          | none => others }) s

/-- Says what is to be done when a signal comes, or at the end. -/
def trap : Builtin := fun _ arguments s =>
  let s := s.done 0
  match if arguments.head? = some "--" then arguments.drop 1 else arguments with
  | [] =>
    let sorted := s.traps.mergeSort fun a b => a.1 ≤ b.1
    .ok (sorted.foldl (fun s (number, action) =>
      s.emitLine ("trap -- " ++ inQuotes action ++ " " ++ conditionName number)) s)
  | [one] =>
    if one ≠ "-" ∧ one.toList.head? = some '-' then
      .error ("Illegal option " ++ String.ofList (one.toList.take 2))
    else .ok (setTraps none [one] s)
  | "-" :: conditions => .ok (setTraps none conditions s)
  | first :: conditions =>
    if 1 < first.length ∧ first.toList.head? = some '-' then
      .error ("Illegal option " ++ String.ofList (first.toList.take 2))
    else if first.toList.all Char.isDigit ∧ !first.isEmpty then
      .ok (setTraps none (first :: conditions) s)
    else .ok (setTraps (some first) conditions s)

/-! ## Waiting -/

/-- Waits for a job. -/
def waitFor (run : Runner) (s : State) (process : Nat) : State :=
  match s.jobs.find? (·.process = process) with
  | none => s.done 127
  | some job =>
    match job.signal with
    | none =>
      let s := runJob run s job
      s.done (((s.jobs.find? (·.process = process)).map (·.status)).getD 127)
    | some signal =>
      let ended : Job := { process, status := 128 + signal }
      let others := s.jobs.filter (·.process ≠ process)
      { s with jobs := others ++ [ended] }.buried signal

/-- Waits for commands that run beside the script. -/
def wait : Builtin := fun run arguments s =>
  match if arguments.head? = some "--" then arguments.drop 1 else arguments with
  | [] => .ok ((runJobs run s).done 0)
  | arguments => arguments.foldlM (fun s text =>
    match text.toList with
    | '%' :: digits =>
      match s.jobs[valueOfDigits 10 digits - 1]? with
      | some job => .ok (waitFor run s job.process)
      | none => .error ("No such job: " ++ text)
    | _ => do return waitFor run s (← naturalOf text)) s

end Signals

end WasmBindings.Shell
