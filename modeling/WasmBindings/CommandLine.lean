import WasmBindings.Build.Pipeline
import WasmBindings.Module.Json

/-!
# The command line

Three commands: `build` makes artifacts from source, `bindings` from a binary that is there
already, and `describe` shows the interface of a binary. Arguments are read from left to right, and
the first one that makes no sense ends the reading; so does a question for help or the version.
-/

namespace WasmBindings.CommandLine

/-- What is to be done. -/
inductive Request where
  | build (plan : BuildPlan) (paths : BuildPaths)
  | bindings (binary : Path) (output : Output) (out : Path)
  | describe (binary : Path) (asJson : Bool)
  deriving DecidableEq, Repr

/-- Why there is no request: another question comes first, or the arguments make no sense. -/
inductive Stop where
  | version
  | help
  | misuse
  deriving DecidableEq, Repr

/-! ## Reading arguments -/

/-- What a command takes: switches, options with a value, and a number of operands. -/
structure Grammar where
  switches : List String
  options : List String
  operands : Nat
  hasVersion : Bool := false

/-- What has been read. -/
structure Matches where
  switches : List String := []
  options : List (String × String) := []
  operands : List String := []
  deriving Repr

namespace Matches

/-- Whether a switch is set. -/
def has (r : Matches) (switch : String) : Bool := r.switches.contains switch

/-- The value of an option. -/
def value? (r : Matches) (option : String) : Option String :=
  (r.options.find? (·.1 = option)).map (·.2)

/-- Sets a switch, which may be set once. -/
def addSwitch (r : Matches) (switch : String) : Except Stop Matches :=
  if r.has switch then .error .misuse else .ok { r with switches := switch :: r.switches }

/-- The profile of a name. -/
def profile? : String → Option Profile
  | "debug" => some .debug
  | "release" => some .release
  | _ => none

/-- Sets an option, which may be set once. Its value is a profile or a path, and a path is not
empty. -/
def addOption (r : Matches) (option value : String) : Except Stop Matches :=
  if (r.value? option).isSome then .error .misuse
  else if option = "profile" ∧ (profile? value).isNone then .error .misuse
  else if value.isEmpty then .error .misuse
  else .ok { r with options := (option, value) :: r.options }

/-- Adds an operand, if there may be one more. It is a path and not empty. -/
def addOperand (r : Matches) (g : Grammar) (value : String) : Except Stop Matches :=
  if r.operands.length < g.operands ∧ ¬ value.isEmpty then
    .ok { r with operands := r.operands ++ [value] }
  else .error .misuse

end Matches

/-- Whether an argument looks like a switch or an option. -/
def isDashed (argument : String) : Bool := argument.startsWith "-" && argument != "-"

/-- Reads a cluster of one-letter switches. -/
def readCluster (g : Grammar) : Matches → List Char → Except Stop Matches
  | r, [] => .ok r
  | r, letter :: rest => do
    if letter = 'v' then readCluster g (← r.addSwitch "verbose") rest
    else if letter = 'h' then throw .help
    else if letter = 'V' ∧ g.hasVersion then throw .version
    else throw .misuse

/-- Reads a switch or option with a long name. Its value stands behind an equals sign or is the next
argument; gives back the arguments that are left. -/
def readLong (g : Grammar) (r : Matches) (name : String) (attached : Option String)
    (rest : List String) : Except Stop (Matches × List String) :=
  if g.options.contains name then
    match attached, rest with
    | some value, rest => do return (← r.addOption name value, rest)
    | none, value :: rest =>
      if isDashed value then .error .misuse else do return (← r.addOption name value, rest)
    | none, [] => .error .misuse
  else if attached.isSome then .error .misuse
  else if name = "help" then .error .help
  else if name = "version" ∧ g.hasVersion then .error .version
  else if name = "verbose" ∨ g.switches.contains name then do
    return (← r.addSwitch name, rest)
  else .error .misuse

theorem readLong_length {g : Grammar} {r r' : Matches} {name : String} {attached : Option String}
    {rest rest' : List String} (h : readLong g r name attached rest = .ok (r', rest')) :
    rest'.length ≤ rest.length := by
  unfold readLong at h
  repeat' split at h
  all_goals first
    | cases h
    | (cases hr : r.addOption name ‹_› <;> rw [hr] at h <;> cases h; simp)
    | (cases hr : r.addSwitch name <;> rw [hr] at h <;> cases h; simp)

/-- The name and value of an argument with two dashes in front. -/
def splitLong (argument : String) : String × Option String :=
  let text := argument.toList.drop 2
  match text.dropWhile (· ≠ '=') with
  | [] => (String.ofList text, none)
  | _ :: value => (String.ofList (text.takeWhile (· ≠ '=')), some (String.ofList value))

/-- Reads the arguments of a command. After two dashes everything is an operand. -/
def readArguments (g : Grammar) (r : Matches) : List String → Except Stop Matches
  | [] => .ok r
  | argument :: rest =>
    if argument = "--" then rest.foldlM (·.addOperand g ·) r
    else if argument.startsWith "--" then
      let (name, attached) := splitLong argument
      match _h : readLong g r name attached rest with
      | .error stop => .error stop
      | .ok (r, rest) => readArguments g r rest
    else if isDashed argument then do
      readArguments g (← readCluster g r (argument.toList.drop 1)) rest
    else do
      readArguments g (← r.addOperand g argument) rest
termination_by arguments => arguments.length
decreasing_by
  · have := readLong_length _h
    simp
    omega
  · simp
  · simp

/-! ## Commands -/

/-- What `build` takes. -/
def buildGrammar : Grammar :=
  ⟨["release", "wrapper", "async", "declarations"], ["entry", "profile", "cache-dir", "out-dir"],
    1, false⟩

/-- What `bindings` takes. -/
def bindingsGrammar : Grammar := ⟨["async", "declarations"], ["out-dir"], 1, false⟩

/-- What `describe` takes. -/
def describeGrammar : Grammar := ⟨["json"], [], 1, false⟩

/-- What stands in front of a command. -/
def frontGrammar : Grammar := ⟨[], [], 0, true⟩

/-- Which artifacts are asked for. An asynchronous wrapper is a wrapper. -/
def Matches.output (r : Matches) (wrapper : Bool) : Output where
  wrapper :=
    if r.has "async" then some .async else if wrapper then some .sync else none
  declarations := r.has "declarations"

/-- The profile: what is said here counts before the setting of the environment. -/
def Matches.profile (r : Matches) (setting : Option String) : Except Stop Profile :=
  match (r.value? "profile") <|> setting with
  | none => .ok .debug
  | some name =>
    match Matches.profile? name with
    | some profile => .ok profile
    | none => .error .misuse

/-- The directory that artifacts go to. -/
def Matches.out (r : Matches) : Path := ⟨(r.value? "out-dir").getD "."⟩

/-- The request that a command with its arguments makes. -/
def readRequest (setting : Option String) (command : String) (arguments : List String) :
    Except Stop (Bool × Request) := do
  match command with
  | "build" =>
    let r ← readArguments buildGrammar {} arguments
    let profile ← r.profile setting
    let plan : BuildPlan := {
      profile := if r.has "release" then .release else profile
      entry := (r.value? "entry").map Path.mk
      output := r.output (r.has "wrapper") }
    return (r.has "verbose", .build plan {
      input := ⟨r.operands.head?.getD "."⟩
      cache := ⟨(r.value? "cache-dir").getD "target/wasmwrap"⟩
      out := r.out })
  | "bindings" =>
    let r ← readArguments bindingsGrammar {} arguments
    match r.operands with
    | binary :: _ => return (r.has "verbose", .bindings ⟨binary⟩ (r.output true) r.out)
    | [] => throw .misuse
  | "describe" =>
    let r ← readArguments describeGrammar {} arguments
    match r.operands with
    | binary :: _ => return (r.has "verbose", .describe ⟨binary⟩ (r.has "json"))
    | [] => throw .misuse
  | "help" =>
    match arguments with
    | [] | ["build"] | ["bindings"] | ["describe"] | ["help"] => throw .help
    | _ => throw .misuse
  | _ => throw .misuse

/-- Reads all arguments: switches, then a command and what belongs to it. Gives back whether the log
is to be detailed, and the request. -/
def read (setting : Option String) (arguments : List String) : Except Stop (Bool × Request) := do
  let front := arguments.takeWhile isDashed
  let r ← readArguments frontGrammar {} front
  if front.contains "--" then throw .misuse
  else
    match arguments.drop front.length with
    | [] => throw .misuse
    | command :: rest =>
      let (verbose, request) ← readRequest setting command rest
      return (verbose || r.has "verbose", request)

/-! ## Carrying out -/

/-- Why a request was not met. A binary that is only to be described is refused in the words of the
format. -/
inductive Failure where
  | build (error : BuildError)
  | format (error : FormatError)
  deriving DecidableEq, Repr

/-- The wording of a failure. -/
def Failure.message : Failure → String
  | build error => error.message
  | format error => error.message

variable {m : Type → Type} [Monad m]

/-- Reads a binary. -/
def readBinary (p : Platform m) (path : Path) : ExceptT BuildError m Bytes :=
  attempt (.io path) (p.readFile path)

/-- Makes the artifacts of a binary and writes them under its name. -/
def bind (p : Platform m) (binary : Path) (output : Output) (out : Path) :
    ExceptT BuildError m (List Path) := do
  let artifacts ← p.generate (← readBinary p binary) output
  p.writeArtifacts binary.artifactName artifacts out

/-- The text that describes a binary. -/
def describe (p : Platform m) (binary : Path) (asJson : Bool) : ExceptT Failure m String := do
  let contents ← attempt .build (readBinary p binary)
  (Module.decodeLog contents).forM fun record => ExceptT.lift (p.record record)
  match Module.decode contents with
  | .error e => throw (.format e)
  | .ok interface => return if asJson then interface.json.text ++ "\n" else interface.listing

/-- Carries out a request and gives back what it prints. -/
def perform (p : Platform m) : Request → ExceptT Failure m String
  | .build plan paths => do
    let _ ← attempt .build (p.build plan (p.toolchain plan) paths)
    return ""
  | .bindings binary output out => do
    let _ ← attempt .build (bind p binary output out)
    return ""
  | .describe binary asJson => describe p binary asJson

/-- What a run leaves behind: its exit code and what it printed. -/
structure Outcome where
  code : Nat
  output : String := ""
  errors : String := ""
  deriving DecidableEq, Repr

/-- The name and version of the program. -/
def versionText : String := "wasmwrap 0.0.1\n"

/-- How the program is used. -/
def usageText : String :=
  "Usage: wasmwrap [-v] build [INPUT] [--entry FILE] [--profile debug|release] [--release]\n" ++
  "                [--wrapper] [--async] [--declarations] [--cache-dir DIR] [--out-dir DIR]\n" ++
  "       wasmwrap [-v] bindings MODULE [--async] [--declarations] [--out-dir DIR]\n" ++
  "       wasmwrap [-v] describe MODULE [--json]\n"

/-- Carries out a request to the end. -/
def finish (p : Platform m) (request : Request) : m Outcome := do
  match ← (perform p request).run with
  | .ok output => return ⟨0, output, ""⟩
  | .error e => return ⟨1, "", s!"error: {e.message}\n"⟩

/-- What is printed instead of carrying out a request. -/
def Stop.outcome : Stop → Outcome
  | version => ⟨0, versionText, ""⟩
  | help => ⟨0, usageText, ""⟩
  | misuse => ⟨2, "", usageText⟩

/-- Runs the program on its arguments. -/
def run (p : Platform m) (setting : Option String) (arguments : List String) : m Outcome :=
  match read setting arguments with
  | .error stop => return stop.outcome
  | .ok (_, request) => finish p request

end WasmBindings.CommandLine
