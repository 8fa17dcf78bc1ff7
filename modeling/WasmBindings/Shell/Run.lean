import WasmBindings.Shell.Braces
import WasmBindings.Shell.Redirection
import WasmBindings.Shell.Start

/-!
# Running commands

Commands act on the state of a script one after another until it ends. How deep they nest and how
often a loop goes round is bounded, so every script comes to an end.
-/

namespace WasmBindings.Shell

/-- How many commands may run inside of each other before the script breaks down. -/
def nestingLimit : Nat := 3000

/-- How often a loop goes round before the script is stopped. -/
def roundLimit : Nat := 1000000

/-- The signal of a script that breaks down. -/
def breakdown : Nat := 11

/-! ## Starting programs -/

/-- The wording and the status if a program cannot be started. -/
def startFailure (dialect : Dialect) (name : String) (e : IoError) : String × Nat :=
  let isMissing := e = .notFound ∨ e = .notADirectory
  match dialect with
  | .plain =>
    if name.isEmpty then (": Permission denied", 127)
    else if isMissing then (name ++ ": not found", 127)
    else (name ++ ": " ++ e.reason, 126)
  | .extended =>
    if e = .notFound ∧ !name.toList.contains '/' then (name ++ ": command not found", 127)
    else (name ++ ": " ++ e.reason, if e = .notFound then 127 else 126)

/-- Starts a program in a state. -/
def launch (run : Runner) (name : String) (arguments : List String) (s : State) :
    Except IoError State :=
  startNamed (execute run nestingLimit 0) "" name arguments s

/-- Runs a program as a child of the script. -/
def spawn (run : Runner) (name : String) (arguments : List String) (s : State) : State :=
  match launch run name arguments (s.child name) with
  | .ok inner => s.afterChild inner
  | .error e =>
    let (text, status) := startFailure s.dialect name e
    s.shellError text status

/-- Puts a program in the place of the script. -/
def replaceBy (run : Runner) (name : String) (arguments : List String) (s : State) : State :=
  let child := { s.child name with
    process := s.process, parent := s.parent, lastProcess := s.lastProcess, depth := s.depth }
  match launch run name arguments child with
  | .ok inner =>
    let ended := { s with
      traps := []
      tree := inner.tree
      channels := inner.channels
      slept := inner.slept
      lastProcess := inner.lastProcess
      forParent := inner.forParent }
    match inner.flow with
    | .killed signal => { ended with flow := .killed signal }
    | _ => ended.exit inner.status
  | .error e =>
    let (text, status) := startFailure s.dialect name e
    (({ s with context := "exec" }.shellError text status)).exit status

/-! ## Simple commands -/

/-- Runs the body of a function with arguments of its own. -/
def callFunction (run : Runner) (body : Statement) (arguments : List String) (s : State) : State :=
  let inner := run body { s with arguments, hidden := [] :: s.hidden, loops := 0 }
  let uncovered := (inner.hidden.head?.getD []).foldl (fun s (name, before) =>
    match before with
    | some v => s.putVariable v
    | none => s.removeVariable name) inner
  { uncovered with
    arguments := s.arguments
    hidden := s.hidden
    loops := s.loops
    flow := match inner.flow with
      | .returning | .leaving .. => .running
      | flow => flow }

/-- The options of `command`: whether it only tells what would run, and in how many words. -/
def commandUsage : List String → (tells describes : Bool) → Bool × Bool × List String
  | "-v" :: words, _, describes => commandUsage words true describes
  | "-V" :: words, tells, _ => commandUsage words tells true
  | "-p" :: words, tells, describes => commandUsage words tells describes
  | "--" :: words, tells, describes => (tells, describes, words)
  | words, tells, describes => (tells, describes, words)

/-- Runs what a name stands for, if that is no function. -/
def runDirectly (run : Runner) (special : Bool) (name : String) (arguments : List String)
    (s : State) : State :=
  match name, arguments with
  | "exec", [] => s.done 0
  | "exec", "--" :: name :: arguments | "exec", name :: arguments => replaceBy run name arguments s
  | name, arguments =>
    let isBuiltin := specialNames.contains name || (regularNames s.dialect).contains name
    match if isBuiltin then Builtin.ofName? s.dialect name else none with
    | some builtin =>
      Builtin.perform run builtin (special && specialNames.contains name) name arguments s
    | none => spawn run name arguments s

/-- Runs a command whose words have been expanded. -/
def runFields (run : Runner) (name : String) (arguments : List String) (s : State) : State :=
  if name = "command" ∨ (name = "builtin" ∧ s.dialect = .extended) then
    match commandUsage arguments false false with
    | (true, _, words) => Builtin.tell (s.done 0) (words.head?.getD "")
    | (_, true, words) => words.foldl Builtin.describe (s.done 0)
    | (_, _, []) => s.done 0
    | (_, _, name :: arguments) => runDirectly run false name arguments s
  else
    match meaningOf s name with
    | .function body => callFunction run body arguments s
    | _ => runDirectly run true name arguments s

/-- Sets a variable to the value of an assignment; gives back how it is shown as well. -/
def assignOne (run : Runner) (exported : Bool) (a : Assignment Word) (s : State) :
    String × State :=
  let name := String.ofList a.name
  let (value, s) := expandValue run a.value s
  if !s.isRunning then ("", s)
  else
    let value := if a.appends then s.parameter name ++ value else value
    let s := s.assign name value
    let s := match exported, s.lookup? name with
      | true, some v => s.putVariable { v with exported := true }
      | _, _ => s
    (name ++ "=" ++ value, s)

/-- Sets variables one after the other. -/
def assignAll (run : Runner) (exported : Bool) (assignments : List (Assignment Word)) (s : State) :
    List String × State :=
  assignments.foldl (fun (shown, s) a =>
    if !s.isRunning then (shown, s)
    else
      let (text, s) := assignOne run exported a s
      (shown ++ [text], s)) ([], s)

/-- Shows a command before it runs, among the errors as they were before the command. -/
def showTrace (before : State) (words : List String) (s : State) : State :=
  if !s.options.trace ∨ words.isEmpty then s
  else
    let front := (s.valueOf? "PS4").getD "+ "
    let shown := { s with streams := before.streams }.emitTo 2
      (Octet.toBytes (front ++ " ".intercalate words ++ "\n"))
    { shown with streams := s.streams }

/-- Gives variables back what they were. -/
def restoreVariables (assignments : List (Assignment Word)) (before s : State) : State :=
  assignments.foldl (fun s a =>
    let name := String.ofList a.name
    match before.lookup? name with
    | some v => s.putVariable v
    | none => s.removeVariable name) s

/-- Ends a strict script whose command has failed, unless somebody has asked for its status. -/
def checkStrict (s : State) : State :=
  if s.options.strict ∧ !s.tested ∧ s.status ≠ 0 ∧ s.isRunning then s.exit s.status else s

/-- The commands whose arguments can be assignments, which are not cut into fields. -/
def declares (name : String) : Bool :=
  ["export", "readonly", "local", "declare", "typeset", "alias"].contains name

/-- Whether a word is an assignment as it stands. -/
def isAssignment (word : Word) : Bool :=
  match word with
  | .literal text false :: _ =>
    let name := text.takeWhile isNameChar
    isName name && (text.drop name.length).head? == some '='
  | _ => false

/-- The fields of a command. -/
def expandFields (run : Runner) (words : List Word) (s : State) : List String × State :=
  let words := if s.dialect = .extended then words.flatMap Braces.expand else words
  let declaring := match words.head? with
    | some [.literal text false] => declares (String.ofList text)
    | _ => false
  if !declaring then expandWords run words s
  else
    words.foldl (fun (fields, s) word =>
      if !s.isRunning then (fields, s)
      else if isAssignment word then
        let (text, s) := expandText run word s
        (fields ++ [text], s)
      else
        let (more, s) := expandWord run word s
        (fields ++ more, s)) ([], s)

/-- Runs a simple command. -/
def runSimple (run : Runner) (line : Nat) (assignments : List (Assignment Word))
    (words : List Word) (redirects : List (Redirect Word)) (s : State) : State :=
  let s := { s with line, taken := none }
  let (fields, s) := expandFields run words s
  if !s.isRunning then s
  else
    match fields with
    | [] =>
      redirecting run redirects (fun inner =>
        let (shown, inner) := assignAll run false assignments inner
        if !inner.isRunning then inner
        else (showTrace s shown inner).done (inner.taken.getD 0)) s
    | name :: arguments =>
      let special := specialNames.contains name
      let act (inner : State) : State :=
        let (shown, inner) := assignAll run (!special || name = "exec") assignments inner
        if !inner.isRunning then inner
        else runFields run name arguments (showTrace s (shown ++ fields) inner)
      match redirects.foldlM (redirect run) s with
      | .error inner =>
        let inner := restoreStreams redirects s inner
        if special ∧ s.dialect = .plain ∧ inner.isRunning then inner.exit inner.status else inner
      | .ok inner =>
        let ended := act inner
        let ended := if name = "exec" ∧ arguments.isEmpty then ended
          else restoreStreams redirects s ended
        if special then ended else restoreVariables assignments s ended

/-! ## Compound commands -/

/-- Runs a command whose status is asked for, so that a failure in it is no reason to stop. -/
def runTested (run : Runner) (command : Statement) (s : State) : State :=
  { run command { s with tested := true } with tested := s.tested }

/-- What comes after a round of a loop, and whether there is another one. -/
def afterRound (s : State) : State × Bool :=
  match s.flow with
  | .running => (s, true)
  | .leaving levels again =>
    if levels ≤ 1 then ({ s with flow := .running }, again)
    else ({ s with flow := .leaving (levels - 1) again }, false)
  | _ => (s, false)

/-- Runs a body once for each value of a variable. -/
def runEach (run : Runner) (name : String) (body : Statement) : List String → State → State
  | [], s => s
  | value :: rest, s =>
    let s := s.assign name value
    if !s.isRunning then s
    else
      match afterRound (run body s) with
      | (s, true) => runEach run name body rest s
      | (s, false) => s

/-- Runs a body as long as a condition holds, or does not. The fuel bounds the number of rounds. -/
def runWhile (run : Runner) (whileTrue : Bool) (test body : Statement) :
    (fuel : Nat) → (status : Nat) → State → State
  | 0, _, s => { s with flow := .killed 9 }
  | fuel + 1, status, s =>
    match afterRound (runTested run test s) with
    | (s, false) => s
    | (s, true) =>
      if (s.status = 0) ≠ whileTrue then s.done status
      else
        match afterRound (run body s) with
        | (s, true) => runWhile run whileTrue test body fuel s.status s
        | (s, false) => s

/-- The body of the first branch with a pattern that a text fits, if there is one. -/
def chosen? (run : Runner) (subject : List Char) :
    List (List Word × Statement) → State → Option Statement × State
  | [], s => (none, s)
  | (patterns, body) :: rest, s =>
    let (found, s) := patterns.foldl (fun (found, s) pattern =>
      if found ∨ !s.isRunning then (found, s)
      else
        let (globs, s) := expandPattern run pattern s
        (Glob.fits globs subject, s)) (false, s)
    if found then (some body, s) else chosen? run subject rest s

/-- Runs the commands of a pipeline, each by itself: every one reads what the one before it has
written. Gives back their statuses, the last one first. -/
def runPipeline (run : Runner) : (input : Option Nat) → List Statement → List Nat → State →
    List Nat × State
  | _, [], statuses, s => (statuses, s)
  | input, command :: rest, statuses, s =>
    let inner := match input with
      | some index => s.point 0 index
      | none => s
    let (output, inner) := if rest.isEmpty then (none, inner)
      else
        let (index, inner) := inner.addChannel (.pipe [])
        (some index, inner.point 1 index)
    let ended := s.after (runApart run (run command) inner)
    let ended := match input with
      | some index => { ended with channels := ended.channels.setIfInBounds index .sink }
      | none => ended
    if !ended.isRunning then (ended.status :: statuses, ended)
    else runPipeline run output rest (ended.status :: statuses) ended

/-- Sets a command to run beside the script. If it sleeps, it is run when somebody waits for it. -/
def runBeside (run : Runner) (command : Statement) (s : State) : State :=
  let process := s.lastProcess + 1
  let s := { s with lastProcess := process, background := some process }
  let (index, outer) := s.addChannel .sink
  let inner := runApart run (run command) ({ outer with tested := false }.point 0 index)
  let job : Job :=
    if inner.slept = s.slept then { process, status := inner.status }
    else { process, command := some command }
  let s := if inner.slept = s.slept then s.after inner else s
  { s with jobs := s.jobs ++ [job], status := 0 }

/-! ## Conditions in double brackets -/

/-- The words of a condition in which the last one may be a pattern. -/
def runQuestion (run : Runner) (words : List Word) (s : State) : State :=
  let texts (words : List Word) (s : State) : List String × State :=
    words.foldl (fun (texts, s) word =>
      let (text, s) := expandText run word s
      (texts ++ [text], s)) ([], s)
  let answer (truth : Bool) (s : State) : State := s.done (if truth then 0 else 1)
  match words with
  | [a, operator, b] =>
    let (front, s) := texts [a, operator] s
    let left := front.head?.getD ""
    let fits (s : State) : Bool × State :=
      let (globs, s) := expandPattern run b s
      (Glob.fits globs left.toList, s)
    let numbers (holds : Int → Int → Bool) : State :=
      let (right, s) := expandText run b s
      let (x, s) := computed s left.toList
      let (y, s) := computed s right.toList
      answer (holds (x.toInt?.getD 0) (y.toInt?.getD 0)) s
    match front.getLast?.getD "" with
    | "=" | "==" =>
      let (truth, s) := fits s
      answer truth s
    | "!=" =>
      let (truth, s) := fits s
      answer (!truth) s
    | "-eq" => numbers (· = ·)
    | "-ne" => numbers (· ≠ ·)
    | "-lt" => numbers (· < ·)
    | "-le" => numbers (· ≤ ·)
    | "-gt" => numbers fun x y => y < x
    | "-ge" => numbers fun x y => y ≤ x
    | _ =>
      let (all, s) := texts words s
      decided all s
  | words =>
    let (all, s) := texts words s
    decided all s
where
  /-- Finishes with the truth of a condition. -/
  decided (words : List String) (s : State) : State :=
    match Condition.truth s words with
    | .ok truth => s.done (if truth then 0 else 1)
    | .error text => s.shellError text 2

/-! ## All commands -/

/-- Runs the commands of a sequence as far as the script goes on. -/
def runSequence (run : Runner) (commands : List Statement) (s : State) : State :=
  commands.foldl (fun s command => if s.isRunning then run command s else s) s

/-- Runs one command. -/
def runStatement (run : Runner) (command : Statement) (s : State) : State :=
  match command with
  | .simple line assignments words redirects =>
    checkStrict (runSimple run line assignments words redirects s)
  | .sequence [] => s.done 0
  | .sequence commands => runSequence run commands s
  | .background command => runBeside run command s
  | .both first second =>
    let s := runTested run first s
    if s.status = 0 ∧ s.isRunning then run second s else s
  | .either first second =>
    let s := runTested run first s
    if s.status ≠ 0 ∧ s.isRunning then run second s else s
  | .negated command =>
    let s := runTested run command s
    if s.isRunning then s.done (if s.status = 0 then 1 else 0) else s
  | .pipeline commands =>
    let (statuses, s) := runPipeline run none commands [] s
    let status := if s.options.anyFailure then (statuses.find? (· ≠ 0)).getD 0
      else statuses.head?.getD 0
    if s.isRunning then checkStrict (s.done status) else s
  | .condition test yes no =>
    let s := runTested run test s
    if !s.isRunning then s
    else if s.status = 0 then run yes s
    else run no s
  | .each line name words body =>
    let (values, s) := expandFields run words { s with line }
    if !s.isRunning then s
    else
      let loops := s.loops
      let ended := runEach run (String.ofList name) body values { s.done 0 with loops := loops + 1 }
      { ended with loops }
  | .choice line subject branches =>
    let (subject, s) := expandText run subject { s with line }
    if !s.isRunning then s
    else
      match chosen? run subject.toList branches s with
      | (some body, s) => if s.isRunning then run body s else s
      | (none, s) => if s.isRunning then s.done 0 else s
  | .repeated whileTrue test body =>
    let loops := s.loops
    let ended := runWhile run whileTrue test body roundLimit 0 { s with loops := loops + 1 }
    { ended with loops }
  | .subshell line body => checkStrict (runApart run (run body) { s with line })
  | .redirected line body redirects =>
    redirecting run redirects (run body) { s with line }
  | .define name body =>
    let name := String.ofList name
    { s with
      functions := (name, body) :: s.functions.filter (·.1 ≠ name)
      status := 0 }
  | .compute line expression =>
    let (text, s) := expandText run expression { s with line }
    if !s.isRunning then s
    else
      let (value, s) := computed s text.toList
      checkStrict (if s.isRunning then s.done (if value = "0" then 1 else 0) else s)
  | .question line words => checkStrict (runQuestion run words { s with line })

/-- Runs a command, and then the traps of the signals that have come meanwhile. -/
def run : (fuel : Nat) → Runner
  | 0, _, s => { s with flow := .killed breakdown }
  | fuel + 1, command, s =>
    if !s.isRunning then s
    else
      let s := runStatement (run fuel) command s
      if s.pending.isEmpty then s else runPending (run fuel) (s.pending.length + 1) s

/-- Starts a program by the path of its file and runs it to its end. -/
def start (path : String) (arguments : List String) (s : State) : Except IoError State :=
  execute (run nestingLimit) nestingLimit 0 path arguments s

end WasmBindings.Shell
