import WasmBindings.Shell.Grammar
import WasmBindings.Shell.State

/-!
# Running texts

A script is run line by line, so what stands above a malformed line has been done. Here is also what
a part of a script does that runs by itself, and what is done on signals and at the end.
-/

namespace WasmBindings.Shell

/-- How to run a command, given to what meets commands inside of others. -/
abbrev Runner := Statement → State → State

namespace State

/-- Ends the script because it is malformed. -/
def malformed (s : State) (e : SyntaxError) : State :=
  let status := if s.dialect = .plain then 2 else 1
  let inner := { s with line := e.line }.shellError ("Syntax error: " ++ e.text) status
  { inner with line := s.line, flow := .exited }

end State

/-- Runs the rest of a text. Without any command in it the status is that of success. The fuel
bounds the number of lines. -/
def runLines (run : Runner) : (fuel : Nat) → (isFirst : Bool) → Cursor → State → State
  | 0, _, _, s => s
  | fuel + 1, isFirst, c, s =>
    if !s.isRunning then s
    else
      match readLine? c with
      | .error e => s.malformed e
      | .ok none => if isFirst then s.done 0 else s
      | .ok (some (command, c)) =>
        runLines run fuel false c (if s.options.idle then s else run command s)

/-- Runs a text. -/
def runText (run : Runner) (text : String) (s : State) : State :=
  let text := text.toList
  runLines run (text.length + 1) true { rest := text, dialect := s.dialect } s

/-- Runs a text of lines of its own, whose errors are said to come from somewhere. -/
def runWithin (run : Runner) (context text : String) (s : State) : State :=
  let inner := runText run text { s with context, line := 1 }
  { inner with context := s.context, line := s.line }

/-! ## Signals and the end -/

/-- The signals that do not end a script by themselves. -/
def harmlessSignals : List Nat := [17, 18, 19, 20, 21, 22, 23, 28]

/-- The signals that cannot be caught. -/
def certainSignals : List Nat := [9, 19]

/-- What a signal does to the script: its trap has to run, or it is ignored, or it is the end. -/
def State.receive (s : State) (signal : Nat) : State :=
  match if certainSignals.contains signal then none else s.traps.find? (·.1 = signal) with
  | some (_, text) => if text.isEmpty then s else { s with pending := s.pending ++ [signal] }
  | none =>
    if signal = 0 ∨ harmlessSignals.contains signal then s
    else { s with flow := .killed signal }

/-- The wording of the end of a program by a signal, if it is worth telling. -/
def obituary? : Nat → Option String
  | 1 => some "Hangup"
  | 3 => some "Quit"
  | 4 => some "Illegal instruction"
  | 5 => some "Trace/breakpoint trap"
  | 6 => some "Aborted"
  | 7 => some "Bus error"
  | 8 => some "Floating point exception"
  | 9 => some "Killed"
  | 10 => some "User defined signal 1"
  | 11 => some "Segmentation fault"
  | 12 => some "User defined signal 2"
  | 14 => some "Alarm clock"
  | 15 => some "Terminated"
  | 16 => some "Stack fault"
  | 24 => some "CPU time limit exceeded"
  | 25 => some "File size limit exceeded"
  | 26 => some "Virtual timer expired"
  | 27 => some "Profiling timer expired"
  | 29 => some "I/O possible"
  | 30 => some "Power failure"
  | 31 => some "Bad system call"
  | _ => none

/-- The status of a command that was ended by a signal, with a word about it among the errors. -/
def State.buried (s : State) (signal : Nat) : State :=
  match s.dialect, obituary? signal with
  | .plain, some text => s.complain text (128 + signal)
  | _, _ => s.done (128 + signal)

/-- Runs the text of a trap; the status before it stays, unless the trap ends the script. -/
def runTrap (run : Runner) (text : String) (s : State) : State :=
  let inner := runText run text { s with trapStatus := some s.status }
  let inner := { inner with trapStatus := s.trapStatus }
  if inner.flow = s.flow then inner.done s.status else inner

/-- Runs the traps of the signals that have come. The fuel bounds their number. -/
def runPending (run : Runner) : (fuel : Nat) → State → State
  | 0, s => s
  | fuel + 1, s =>
    match s.pending with
    | [] => s
    | signal :: rest =>
      let s := { s with pending := rest }
      match s.traps.find? (·.1 = signal) with
      | some (_, text) => if s.isRunning then runPending run fuel (runTrap run text s) else s
      | none => runPending run fuel s

/-! ## Parts that run by themselves -/

/-- The beginning of a part that runs by itself: only the signals that are ignored stay so. -/
def State.apart (s : State) : State :=
  { s with
    traps := s.traps.filter (·.2.isEmpty)
    jobs := []
    pending := []
    isPart := true
    forScript := [] }

/-- Goes on after a part that ran by itself. The signals that it has sent to the script have come.
-/
def State.rejoin (s inner : State) : State :=
  let joined := { s.after inner with
    flow := s.flow
    pending := s.pending
    forScript := s.forScript
    status := match inner.flow with
      | .killed signal => 128 + signal
      | _ => inner.status }
  if s.isPart then { joined with forScript := s.forScript ++ inner.forScript }
  else inner.forScript.foldl State.receive joined

/-- Runs a command that was set to run beside the script, unless that has been done or a signal has
ended it. -/
def runJob (run : Runner) (s : State) (job : Job) : State :=
  match job.command, job.signal with
  | some command, none =>
    let inner := run command { s.apart with tested := false, flow := .running }
    let joined := s.rejoin inner
    let ended : Job := { job with command := none, status := joined.status }
    let others := s.jobs.filter (·.process ≠ job.process)
    { joined with status := s.status, jobs := others ++ [ended] }
  | _, _ => s

/-- Runs all commands that are still to be run beside the script. -/
def runJobs (run : Runner) (s : State) : State := s.jobs.foldl (runJob run) s

/-- Runs the trap for the end of a script, unless a signal was the end. -/
def runLastTrap (run : Runner) (s : State) : State :=
  match s.flow, s.traps.find? (·.1 = 0) with
  | .killed _, _ | _, none => s
  | _, some (_, text) =>
    let status := s.status
    let inner := runText run text
      { s with
        flow := .running
        traps := s.traps.filter (·.1 ≠ 0)
        trapStatus := some status
        context := "" }
    match inner.flow with
    | .running | .leaving .. => inner.exit status
    | _ => inner

/-- Comes to the end of a script, when everything that runs beside it has ended as well. -/
def finish (run : Runner) (s : State) : State := runJobs run (runLastTrap run s)

/-- Runs a part of a script by itself. -/
def runApart (run : Runner) (act : State → State) (s : State) : State :=
  let inner := finish run (act s.apart)
  let joined := s.rejoin inner
  match inner.flow with
  | .killed signal => joined.buried signal
  | _ => joined

/-- What a command prints; line ends at the end and NULs are left out. -/
def outputOf (run : Runner) (command : Statement) (s : State) : List Char × State :=
  let (index, s) := s.addChannel (.pipe [])
  let inner := runApart run (run command) ({ s with tested := false }.point 1 index)
  let text := (inner.drain index).map Octet.ofByte
  let text := text.filter (· ≠ '\x00')
  ((text.reverse.dropWhile (· = '\n')).reverse,
    { s.after inner with
      channels := inner.channels.setIfInBounds index .sink
      taken := some inner.status })

end WasmBindings.Shell
