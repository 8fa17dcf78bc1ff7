import WasmBindings.Build.Error
import WasmBindings.Log

/-!
# The platform of a build

What a build asks of the machine that it runs on: files, programs, scratch directories and a log.
The platform is a parameter of the build, so the same build runs on a real machine, in a sandbox,
and on machines that fail wherever a theorem wants them to.

Every operation gives back its outcome; none of them ends the build by itself.
-/

namespace WasmBindings

/-- A program to run: by name or path, in which directory, with which settings added to the
environment. -/
structure Command where
  program : String
  arguments : List String := []
  directory : Option Path := none
  settings : List (String × String) := []
  deriving DecidableEq, Repr

/-- How a program ended. -/
inductive ExitStatus where
  | exited (code : Nat)
  | signaled (number : Nat)
  deriving DecidableEq, Repr, Inhabited

namespace ExitStatus

/-- Whether the program was content. -/
def isSuccess (status : ExitStatus) : Bool := status == exited 0

/-- The names of signals. -/
def signalNames : List (Nat × String) :=
  [(1, "SIGHUP"), (2, "SIGINT"), (3, "SIGQUIT"), (4, "SIGILL"), (5, "SIGTRAP"), (6, "SIGABRT"),
    (7, "SIGBUS"), (8, "SIGFPE"), (9, "SIGKILL"), (10, "SIGUSR1"), (11, "SIGSEGV"),
    (12, "SIGUSR2"), (13, "SIGPIPE"), (14, "SIGALRM"), (15, "SIGTERM"), (16, "SIGSTKFLT"),
    (17, "SIGCHLD"), (18, "SIGCONT"), (19, "SIGSTOP"), (20, "SIGTSTP"), (21, "SIGTTIN"),
    (22, "SIGTTOU"), (23, "SIGURG"), (24, "SIGXCPU"), (25, "SIGXFSZ"), (26, "SIGVTALRM"),
    (27, "SIGPROF"), (28, "SIGWINCH"), (29, "SIGIO"), (30, "SIGPWR"), (31, "SIGSYS")]

/-- The wording of a status. -/
def text : ExitStatus → String
  | exited code => s!"exit status: {code}"
  | signaled number =>
    match signalNames.find? (·.1 = number) with
    | some (_, name) => s!"signal: {number} ({name})"
    | none => s!"signal: {number}"

end ExitStatus

/-- What is known of a program that has run: how it ended, and what it printed as errors. -/
structure Completion where
  status : ExitStatus
  errorOutput : Bytes := []
  deriving DecidableEq, Repr

/-- The operations of a platform. -/
structure Platform (m : Type → Type) where
  /-- Makes a directory and those around it; one that is there already is fine. -/
  createDirectories : Path → m (Except IoError Unit)
  readFile : Path → m (Except IoError Bytes)
  writeFile : Path → Bytes → m (Except IoError Unit)
  removeFile : Path → m (Except IoError Unit)
  /-- Finds the executable file of a program, if there is one. -/
  locate : String → m (Option Path)
  /-- Runs a program to its end, unless it cannot be started. -/
  run : Command → m (Except IoError Completion)
  /-- Makes an empty directory of its own. -/
  makeScratch : m (Except IoError Path)
  removeScratch : Path → m Unit
  record : LogRecord → m Unit

namespace Platform

variable {m : Type → Type}

/-- The platform as seen from a monad that its own is part of. -/
def lift {n : Type → Type} [MonadLiftT m n] (p : Platform m) : Platform n where
  createDirectories path := monadLift (p.createDirectories path)
  readFile path := monadLift (p.readFile path)
  writeFile path contents := monadLift (p.writeFile path contents)
  removeFile path := monadLift (p.removeFile path)
  locate program := monadLift (p.locate program)
  run command := monadLift (p.run command)
  makeScratch := monadLift p.makeScratch
  removeScratch path := monadLift (p.removeScratch path)
  record r := monadLift (p.record r)

variable [Monad m]

/-- Reports progress. -/
def info (p : Platform m) (text : String) : m Unit := p.record ⟨.info, text⟩

/-- Reports something odd. -/
def warn (p : Platform m) (text : String) : m Unit := p.record ⟨.warn, text⟩

/-- Reports in detail. -/
def debug (p : Platform m) (text : String) : m Unit := p.record ⟨.debug, text⟩

end Platform

/-- An operation whose failure is wrapped in an error of another kind. -/
def attempt {m : Type → Type} [Monad m] (wrap : ε → δ) (operation : m (Except ε α)) :
    ExceptT δ m α :=
  ExceptT.mk do return (← operation).mapError wrap

end WasmBindings
