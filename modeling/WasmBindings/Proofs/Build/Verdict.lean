import WasmBindings.Proofs.Build.Running
import WasmBindings.Proofs.Sandbox.Ways
import WasmBindings.Sandbox.Platform

/-!
# The verdict on a tool

What a pass by a tool ends with, by what the platform answers at each step of it: when the tool is
looked for, when the binary is laid before it, when it is started, and when its output is read. Each
answer leads to one outcome, and some outcome follows on any answers (`Trial.Verdict`); so outcomes
can be read back to the answers that they come from.

The same answer means different things at different steps. That nothing is found means that there is
no tool when the tool is looked for, and that it made no output when the output is read. When the
tool is started it means that the tool is there but something that it needs is not, like the program
that reads a script. That is taken for a missing tool all the same, and an optional pass is skipped
then without an error, though its tool is installed.
-/

namespace WasmBindings

/-- The passes by tools that read one file and write another. -/
inductive FilePass where
  | deadCode
  | size

namespace FilePass

/-- What a tool is told of the two files. -/
def arguments : FilePass → (input output : Path) → List String
  | deadCode, input, output => [input.text, output.text]
  | size, input, output => ["-Os", input.text, "-o", output.text]

/-- The pass by some program. -/
def pass {m : Type → Type} [Monad m] (p : Platform m) (program : String) : FilePass → Pass m
  | deadCode => p.deadCodePass program
  | size => p.sizePass program

theorem pass_apply {m : Type → Type} [Monad m] (p : Platform m) (program : String) (wasm : Bytes)
    (kind : FilePass) :
    (kind.pass p program).apply wasm = p.applyFileTool program kind.arguments wasm := by
  cases kind <;> rfl

end FilePass

/-- A pass that is applied to a binary, on a platform in some state. -/
structure Trial (σ : Type) where
  platform : Platform (StateM σ)
  kind : FilePass
  program : String
  wasm : Bytes
  before : σ

namespace Trial

variable {σ : Type} {t : Trial σ}

/-- What the pass ends with. -/
def outcome (t : Trial σ) : Except ToolError Bytes :=
  ((t.kind.pass t.platform t.program).apply t.wasm t.before).1

/-- What it ends with if it is optional. -/
def optional (t : Trial σ) : Except ToolError Bytes :=
  ((t.kind.pass t.platform t.program).applyOptional t.platform t.wasm t.before).1

/-! ## What the platform answers -/

/-- No executable file is found for the program. -/
def Absent (t : Trial σ) : Prop := (t.platform.locate t.program t.before).1 = none

/-- An executable file is found, and the binary lies before it in a scratch directory. -/
inductive Readied (t : Trial σ) : (executable scratch : Path) → σ → Prop
  | mk {executable scratch : Path} {s₁ s₂ s₃ : σ}
      (found : t.platform.locate t.program t.before = (some executable, s₁))
      (made : t.platform.makeScratch s₁ = (.ok scratch, s₂))
      (laid : t.platform.writeFile (scratch.join ⟨"input.wasm"⟩) t.wasm s₂ = (.ok (), s₃)) :
      Readied t executable scratch s₃

/-- The executable file is started on the binary, with this answer. -/
def Started (t : Trial σ) (scratch : Path) (answer : Except IoError Completion) (s : σ) : Prop :=
  ∃ executable s₁, t.Readied executable scratch s₁ ∧
    t.platform.run
      { program := executable.text
        arguments :=
          t.kind.arguments (scratch.join ⟨"input.wasm"⟩) (scratch.join ⟨"output.wasm"⟩) } s₁ =
      (answer, s)

/-- The executable file is found, and does not start. -/
def Refused (t : Trial σ) (error : IoError) : Prop :=
  ∃ scratch s, t.Started scratch (.error error) s

/-- The program runs to its end. -/
def Ended (t : Trial σ) (completion : Completion) : Prop :=
  ∃ scratch s, t.Started scratch (.ok completion) s

/-- The program ends with success, and this is found where it was to leave its output. -/
def Left (t : Trial σ) (path : Path) (answer : Except IoError Bytes) : Prop :=
  ∃ scratch completion s s', t.Started scratch (.ok completion) s ∧ completion.status.isSuccess ∧
    path = scratch.join ⟨"output.wasm"⟩ ∧ t.platform.readFile path s = (answer, s')

/-- Something goes wrong at a step, other than that a program or its output is missing. -/
inductive Interrupted (t : Trial σ) (error : IoError) : Prop
  | scratch {executable : Path} {s₁ s₂ : σ}
      (found : t.platform.locate t.program t.before = (some executable, s₁))
      (failed : t.platform.makeScratch s₁ = (.error error, s₂))
  | input {executable scratch : Path} {s₁ s₂ s₃ : σ}
      (found : t.platform.locate t.program t.before = (some executable, s₁))
      (made : t.platform.makeScratch s₁ = (.ok scratch, s₂))
      (failed : t.platform.writeFile (scratch.join ⟨"input.wasm"⟩) t.wasm s₂ = (.error error, s₃))
  | start (refused : t.Refused error) (other : error ≠ .notFound)
  | output {path : Path} (left : t.Left path (.error error)) (other : error ≠ .notFound)

/-! ## What follows from the answers -/

/-- The outcome that each course of answers leads to. -/
inductive Verdict (t : Trial σ) : Except ToolError Bytes → Prop
  | absent (absent : t.Absent) : Verdict t (.error (.unavailable t.program))
  | refused (refused : t.Refused .notFound) : Verdict t (.error (.unavailable t.program))
  | interrupted {error : IoError} (interrupted : t.Interrupted error) :
      Verdict t (.error (.io t.program error))
  | failed {completion : Completion} (ended : t.Ended completion)
      (fault : completion.status.isSuccess = false) :
      Verdict t (.error (.failed t.program completion.status.text
        (trimBlanks (Lossy.decode completion.errorOutput))))
  | missing {path : Path} (left : t.Left path (.error .notFound)) :
      Verdict t (.error (.missingOutput t.program path))
  | made {path : Path} {bytes : Bytes} (left : t.Left path (.ok bytes)) : Verdict t (.ok bytes)

/-- A tool that is not found is unavailable. -/
theorem outcome_of_absent (absent : t.Absent) : t.outcome = .error (.unavailable t.program) := by
  have none : (liftM (t.platform.locate t.program) : ExceptT ToolError (StateM σ) _) t.before =
      (.ok none, (t.platform.locate t.program t.before).2) :=
    lift_apply (Prod.ext absent rfl)
  rw [outcome, FilePass.pass_apply, Platform.applyFileTool]
  exact congrArg Prod.fst (bind_apply_of_ok none _)

/-- With a tool that is found and a scratch directory, the exchange with the tool decides. -/
theorem outcome_of_made {executable scratch : Path} {s₁ s₂ : σ}
    (found : t.platform.locate t.program t.before = (some executable, s₁))
    (made : t.platform.makeScratch s₁ = (.ok scratch, s₂)) :
    t.outcome =
      (t.platform.exchange t.program executable scratch t.kind.arguments t.wasm s₂).1 := by
  have made' : attempt (ToolError.io t.program) t.platform.makeScratch s₁ = (.ok scratch, s₂) := by
    rw [attempt_apply, made]
    rfl
  rw [outcome, FilePass.pass_apply, Platform.applyFileTool, bind_apply_of_ok (lift_apply found)]
  dsimp only
  rw [bind_apply_of_ok made']
  rfl

theorem outcome_of_noScratch {executable : Path} {error : IoError} {s₁ s₂ : σ}
    (found : t.platform.locate t.program t.before = (some executable, s₁))
    (failed : t.platform.makeScratch s₁ = (.error error, s₂)) :
    t.outcome = .error (.io t.program error) := by
  have failed' : attempt (ToolError.io t.program) t.platform.makeScratch s₁ =
      (.error (.io t.program error), s₂) := by
    rw [attempt_apply, failed]
    rfl
  rw [outcome, FilePass.pass_apply, Platform.applyFileTool, bind_apply_of_ok (lift_apply found)]
  dsimp only
  rw [bind_apply_of_error failed']

theorem outcome_of_noInput {executable scratch : Path} {error : IoError} {s₁ s₂ s₃ : σ}
    (found : t.platform.locate t.program t.before = (some executable, s₁))
    (made : t.platform.makeScratch s₁ = (.ok scratch, s₂))
    (failed : t.platform.writeFile (scratch.join ⟨"input.wasm"⟩) t.wasm s₂ = (.error error, s₃)) :
    t.outcome = .error (.io t.program error) := by
  have failed' : attempt (ToolError.io t.program)
      (t.platform.writeFile (scratch.join ⟨"input.wasm"⟩) t.wasm) s₂ =
      (.error (.io t.program error), s₃) := by
    rw [attempt_apply, failed]
    rfl
  rw [outcome_of_made found made, Platform.exchange, bind_apply_of_error failed']

/-- Once the binary lies before the tool, its run and its output decide. -/
theorem outcome_of_readied {executable scratch : Path} {s : σ}
    (readied : t.Readied executable scratch s) :
    t.outcome = ((t.platform.runTool t.program
        { program := executable.text
          arguments :=
            t.kind.arguments (scratch.join ⟨"input.wasm"⟩) (scratch.join ⟨"output.wasm"⟩) } >>=
      fun _ => t.platform.readOutput t.program (scratch.join ⟨"output.wasm"⟩)) s).1 := by
  obtain ⟨found, made, laid⟩ := readied
  rename_i s₁ s₂
  have laid' : attempt (ToolError.io t.program)
      (t.platform.writeFile (scratch.join ⟨"input.wasm"⟩) t.wasm) s₂ = (.ok (), s) := by
    rw [attempt_apply, laid]
    rfl
  rw [outcome_of_made found made, Platform.exchange, bind_apply_of_ok laid']

/-- A tool that does not start is unavailable if that is because something is not found. -/
theorem outcome_of_refused {error : IoError} (refused : t.Refused error) :
    t.outcome = .error (Platform.startError t.program error) := by
  obtain ⟨scratch, s, executable, s₁, readied, run⟩ := refused
  rw [outcome_of_readied readied, bind_apply_of_error (Platform.runTool_of_error run t.program)]

/-- A tool that ends without success has failed. -/
theorem outcome_of_failed {completion : Completion} (ended : t.Ended completion)
    (fault : completion.status.isSuccess = false) :
    t.outcome = .error (.failed t.program completion.status.text
      (trimBlanks (Lossy.decode completion.errorOutput))) := by
  obtain ⟨scratch, s, executable, s₁, readied, run⟩ := ended
  have judged : Platform.judge t.program completion = .error (.failed t.program
      completion.status.text (trimBlanks (Lossy.decode completion.errorOutput))) := by
    rw [Platform.judge, fault]
    rfl
  have run' := Platform.runTool_of_run run t.program
  rw [judged] at run'
  rw [outcome_of_readied readied, bind_apply_of_error run']

/-- Of a tool that ends with success, the output is read. -/
theorem outcome_of_left {path : Path} {answer : Except IoError Bytes} (left : t.Left path answer) :
    t.outcome = answer.mapError (Platform.outputError t.program path) := by
  obtain ⟨scratch, completion, s, s', ⟨executable, s₁, readied, run⟩, success, rfl, read⟩ := left
  have run' := Platform.runTool_of_run run t.program
  rw [Platform.judge_of_success success] at run'
  rw [outcome_of_readied readied, bind_apply_of_ok run', Platform.readOutput, attempt_apply, read]

theorem startError_of_ne {tool : String} {error : IoError} (other : error ≠ .notFound) :
    Platform.startError tool error = .io tool error := by
  cases error <;> first | rfl | exact absurd rfl other

theorem outputError_of_ne {tool : String} {path : Path} {error : IoError}
    (other : error ≠ .notFound) : Platform.outputError tool path error = .io tool error := by
  cases error <;> first | rfl | exact absurd rfl other

/-- Each course of answers leads to its outcome. -/
theorem Verdict.outcome_eq {result : Except ToolError Bytes} (v : t.Verdict result) :
    t.outcome = result := by
  cases v with
  | absent absent => exact outcome_of_absent absent
  | refused refused => exact outcome_of_refused refused
  | interrupted interrupted =>
    cases interrupted with
    | scratch found failed => exact outcome_of_noScratch found failed
    | input found made failed => exact outcome_of_noInput found made failed
    | start refused other => rw [outcome_of_refused refused, startError_of_ne other]
    | output left other =>
      rw [outcome_of_left left, ← outputError_of_ne other]
      rfl
  | failed ended fault => exact outcome_of_failed ended fault
  | missing left => exact outcome_of_left left
  | made left => exact outcome_of_left left

/-- Some course is taken, whatever the platform answers. -/
theorem exists_verdict (t : Trial σ) : ∃ result, t.Verdict result := by
  cases found : t.platform.locate t.program t.before with
  | mk executable? s₁ =>
  cases executable? with
  | none => exact ⟨_, .absent (congrArg Prod.fst found)⟩
  | some executable =>
  cases made : t.platform.makeScratch s₁ with
  | mk answer s₂ =>
  cases answer with
  | error e => exact ⟨_, .interrupted (.scratch found made)⟩
  | ok scratch =>
  cases laid : t.platform.writeFile (scratch.join ⟨"input.wasm"⟩) t.wasm s₂ with
  | mk answer s₃ =>
  cases answer with
  | error e => exact ⟨_, .interrupted (.input found made laid)⟩
  | ok _ =>
  cases run : t.platform.run
      { program := executable.text
        arguments := t.kind.arguments (scratch.join ⟨"input.wasm"⟩) (scratch.join ⟨"output.wasm"⟩) }
      s₃ with
  | mk answer s₄ =>
  have started : t.Started scratch answer s₄ := ⟨executable, s₃, ⟨found, made, laid⟩, run⟩
  cases answer with
  | error e =>
    by_cases missing : e = .notFound
    · subst missing
      exact ⟨_, .refused ⟨_, _, started⟩⟩
    · exact ⟨_, .interrupted (.start ⟨_, _, started⟩ missing)⟩
  | ok completion =>
  cases success : completion.status.isSuccess with
  | false => exact ⟨_, .failed ⟨_, _, started⟩ success⟩
  | true =>
  cases read : t.platform.readFile (scratch.join ⟨"output.wasm"⟩) s₄ with
  | mk answer s₅ =>
  have left : t.Left _ answer := ⟨_, _, _, _, started, success, rfl, read⟩
  cases answer with
  | ok bytes => exact ⟨_, .made left⟩
  | error e =>
    by_cases missing : e = .notFound
    · subst missing
      exact ⟨_, .missing left⟩
    · exact ⟨_, .interrupted (.output left missing)⟩

/-- **The outcome is the one that the answers lead to,** and no other. -/
theorem outcome_eq_iff {result : Except ToolError Bytes} :
    t.outcome = result ↔ t.Verdict result := by
  refine ⟨fun same => ?_, Verdict.outcome_eq⟩
  obtain ⟨result', v⟩ := t.exists_verdict
  rw [← same, v.outcome_eq]
  exact v

/-! ## What outcomes say -/

theorem outcome_eq_unavailable_iff {tool : String} : t.outcome = .error (.unavailable tool) ↔
    tool = t.program ∧ (t.Absent ∨ t.Refused .notFound) := by
  rw [outcome_eq_iff]
  constructor
  · intro v
    cases v with
    | absent absent => exact ⟨rfl, .inl absent⟩
    | refused refused => exact ⟨rfl, .inr refused⟩
  · rintro ⟨rfl, absent | refused⟩
    · exact .absent absent
    · exact .refused refused

theorem outcome_eq_failed_iff {tool status errors : String} :
    t.outcome = .error (.failed tool status errors) ↔
      tool = t.program ∧ ∃ completion, t.Ended completion ∧ completion.status.isSuccess = false ∧
        status = completion.status.text ∧
        errors = trimBlanks (Lossy.decode completion.errorOutput) := by
  rw [outcome_eq_iff]
  constructor
  · intro v
    cases v with
    | failed ended fault => exact ⟨rfl, _, ended, fault, rfl, rfl⟩
  · rintro ⟨rfl, completion, ended, fault, rfl, rfl⟩
    exact .failed ended fault

theorem outcome_eq_missingOutput_iff {tool : String} {path : Path} :
    t.outcome = .error (.missingOutput tool path) ↔
      tool = t.program ∧ t.Left path (.error .notFound) := by
  rw [outcome_eq_iff]
  constructor
  · intro v
    cases v with
    | missing left => exact ⟨rfl, left⟩
  · rintro ⟨rfl, left⟩
    exact .missing left

theorem outcome_eq_ok_iff {bytes : Bytes} :
    t.outcome = .ok bytes ↔ ∃ path, t.Left path (.ok bytes) := by
  rw [outcome_eq_iff]
  constructor
  · intro v
    cases v with
    | made left => exact ⟨_, left⟩
  · rintro ⟨path, left⟩
    exact .made left

theorem outcome_eq_io_iff {tool : String} {error : IoError} :
    t.outcome = .error (.io tool error) ↔ tool = t.program ∧ t.Interrupted error := by
  rw [outcome_eq_iff]
  constructor
  · intro v
    cases v with
    | interrupted interrupted => exact ⟨rfl, interrupted⟩
  · rintro ⟨rfl, interrupted⟩
    exact .interrupted interrupted

/-- An executable file that is found is not absent. -/
theorem Refused.not_absent {error : IoError} (refused : t.Refused error) : ¬ t.Absent := by
  obtain ⟨scratch, s, executable, s₁, ⟨found, _, _⟩, _⟩ := refused
  intro absent
  rw [Absent, found] at absent
  cases absent

/-! ## Optional passes -/

/-- An optional pass lets everything be but that its tool is unavailable. -/
theorem optional_eq (t : Trial σ) : t.optional =
    match t.outcome with
    | .error (.unavailable _) => .ok t.wasm
    | outcome => outcome := by
  cases ran : ((t.kind.pass t.platform t.program).apply t.wasm).run t.before with
  | mk outcome s =>
  have same : t.outcome = outcome := congrArg Prod.fst ran
  rw [same, optional, Pass.applyOptional]
  change ((((t.kind.pass t.platform t.program).apply t.wasm).run >>= _ :
    StateM σ (Except ToolError Bytes)) _).1 = _
  rw [stateBind_apply ran]
  cases outcome with
  | ok bytes => rfl
  | error e => cases e <;> rfl

/-- **What a pass ends with says what the platform answered,** except that a tool which is found and
does not start, because something that it needs is not found, is unavailable as well as one that is
not found itself. -/
theorem outcome_classified (t : Trial σ) :
    (∀ tool, t.outcome = .error (.unavailable tool) ↔
      tool = t.program ∧ (t.Absent ∨ t.Refused .notFound)) ∧
    (∀ tool status errors, t.outcome = .error (.failed tool status errors) ↔
      tool = t.program ∧ ∃ completion, t.Ended completion ∧ completion.status.isSuccess = false ∧
        status = completion.status.text ∧
        errors = trimBlanks (Lossy.decode completion.errorOutput)) ∧
    (∀ tool path, t.outcome = .error (.missingOutput tool path) ↔
      tool = t.program ∧ t.Left path (.error .notFound)) ∧
    (∀ bytes, t.outcome = .ok bytes ↔ ∃ path, t.Left path (.ok bytes)) ∧
    (∀ tool error, t.outcome = .error (.io tool error) ↔
      tool = t.program ∧ t.Interrupted error) ∧
    (∀ bytes, t.outcome = .ok bytes → t.optional = .ok bytes) ∧
    (∀ error, t.outcome = .error error →
      (t.Absent ∨ t.Refused .notFound → t.optional = .ok t.wasm) ∧
      (¬ (t.Absent ∨ t.Refused .notFound) → t.optional = .error error)) ∧
    ((∀ tool, t.outcome = .error (.unavailable tool) ↔ tool = t.program ∧ t.Absent) ↔
      ¬ t.Refused .notFound) := by
  refine ⟨fun _ => outcome_eq_unavailable_iff, fun _ _ _ => outcome_eq_failed_iff,
    fun _ _ => outcome_eq_missingOutput_iff, fun _ => outcome_eq_ok_iff,
    fun _ _ => outcome_eq_io_iff, ?_, ?_, ?_⟩
  · intro bytes made
    rw [optional_eq, made]
  · intro error failed
    rw [optional_eq, failed]
    constructor
    · intro missing
      rw [outcome_eq_unavailable_iff.2 ⟨rfl, missing⟩] at failed
      cases failed
      rfl
    · intro there
      cases error with
      | unavailable tool => exact absurd (outcome_eq_unavailable_iff.1 failed).2 there
      | failed | missingOutput | io => rfl
  · constructor
    · intro truthful refused
      have unavailable := outcome_eq_unavailable_iff.2 ⟨rfl, .inr refused⟩
      exact refused.not_absent ((truthful _).1 unavailable).2
    · intro starts tool
      rw [outcome_eq_unavailable_iff, or_iff_left starts]

end Trial

/-! ## Scripts without the program that reads them -/

namespace Shell

variable {run : Runner} {fuel scripts : Nat} {path name : String} {arguments : List String}
  {s : State}

theorem execute_of_error {e : IoError} (h : s.node path = .error e) :
    execute run (fuel + 1) scripts path arguments s = .error e := by
  rw [execute]
  simp only [h]
  rfl

/-- A script is handed over to the program that its first line names. -/
theorem execute_of_script {contents : Bytes} {mode : Nat} {argument? : Option String}
    (h : s.node path = .ok (.file contents mode)) (runs : Node.canRun mode)
    (read : interpreter? contents = .ok (name, argument?)) (named : name.isEmpty = false)
    (few : scripts < scriptLimit) :
    execute run (fuel + 1) scripts path arguments s =
      execute run fuel (scripts + 1) name (argument?.toList ++ path :: arguments)
        { s with name } := by
  rw [execute]
  simp only [h, runs, read, named, Nat.not_le.2 few, bind, Except.bind, Bool.not_true,
    Bool.false_eq_true, if_false]

end Shell

namespace Sandbox

/-- A script does not start if the program that its first line names is not there: something is not
found then, though the script is. -/
theorem runCommand_of_noInterpreter {s : Sandbox} {c : Command} {contents : Bytes} {mode : Nat}
    {name : String} {argument? : Option String} (clean : holdsNul c = false)
    (fits : isTooMuch c = false) (here : c.directory = none)
    (path : c.program.toList.contains '/')
    (there : s.tree.node s.home (Octet.toPath (Octet.ofText c.program)) = .ok (.file contents mode))
    (runs : Node.canRun mode) (read : Shell.interpreter? contents = .ok (name, argument?))
    (named : name.isEmpty = false)
    (missing : s.tree.node s.home (Octet.toPath name) = .error .notFound) :
    s.runCommand c = (s, .error .notFound) := by
  have some : c.program.isEmpty = false := by
    rw [← Bool.not_eq_true, String.isEmpty_iff]
    intro empty
    rw [empty] at path
    exact absurd path (by decide)
  have started : Shell.start (Octet.ofText c.program) (c.arguments.map Octet.ofText)
      (s.shellState s.home c.program c.settings) = .error .notFound := by
    have script : (s.shellState s.home c.program c.settings).node (Octet.ofText c.program) =
        .ok (.file contents mode) := there
    have none : ({ s.shellState s.home c.program c.settings with name } : Shell.State).node name =
        .error .notFound := missing
    rw [Shell.start, Shell.nestingLimit, Shell.execute_of_script script runs read named (by decide),
      Shell.execute_of_error none]
  have start : s.startDirectory c = .ok s.home := by
    rw [startDirectory, here]
  have place : s.startPath s.home c.program = .ok ⟨c.program⟩ := by
    rw [startPath, some, path]
    rfl
  simp only [runCommand, start, place, clean, fits, bind, Except.bind, started, Bool.false_eq_true,
    if_false]

theorem writeFile_of_ok {s : Sandbox} {p : Path} {contents : Bytes} {t : FileTree}
    (h : s.tree.writeFile s.home p contents = .ok t) :
    platform.writeFile p contents s = (.ok (), { s with tree := t }) := by
  change changing (fun tree home => tree.writeFile home p contents) s = _
  simp only [changing, h]

/-- A machine on which an optimizer is installed as a script, and the program that reads it is
not. -/
def brokenTool : Sandbox where
  tree := ⟨[(["tmp"], .directory), (["work"], .directory), (["bin"], .directory),
    (["bin", "wasm-opt"], .file (Utf8.encode "#!/no/such/shell\nexit 0\n") Node.programMode)]⟩
  home := ["work"]
  searchPath := [⟨"/bin"⟩]

/-- The same, once a binary lies before the tool. -/
def brokenReady : Sandbox :=
  { brokenTool with
    tree := (brokenTool.tree.put scratch .directory).put (scratch ++ ["input.wasm"])
      (.file [0x00, 0xaa] Node.plainMode) }

/-- The pass for size there. -/
def brokenTrial : Trial Sandbox := ⟨platform, .size, "wasm-opt", [0x00, 0xaa], brokenTool⟩

/-- What it starts. -/
def brokenCommand : Command where
  program := "/bin/wasm-opt"
  arguments := ["-Os", "/tmp/scratch/input.wasm", "-o", "/tmp/scratch/output.wasm"]

theorem locate_brokenTool : brokenTool.locate "wasm-opt" = some ⟨"/bin/wasm-opt"⟩ := by
  have led : brokenTool.tree.resolve brokenTool.home ⟨"/bin/wasm-opt"⟩ = .ok ["bin", "wasm-opt"] :=
    FileTree.resolve_of_leadsDown rfl rfl rfl rfl
  have runs : brokenTool.isExecutable ⟨"/bin/wasm-opt"⟩ = true := by
    rw [isExecutable, FileTree.node_of_find? led rfl]
    rfl
  have plain : ¬ ((⟨"wasm-opt"⟩ : Path).isAbsolute ∨
      1 < (⟨"wasm-opt"⟩ : Path).components.length) := by
    decide +kernel
  have candidates : brokenTool.searchPath.map (·.join ⟨"wasm-opt"⟩) = [⟨"/bin/wasm-opt"⟩] := by
    decide +kernel
  rw [locate, if_neg plain, if_neg (by decide), candidates, List.find?_cons, runs]

theorem runCommand_brokenReady :
    brokenReady.runCommand brokenCommand = (brokenReady, .error .notFound) := by
  have script : brokenReady.tree.resolve ["work"] ⟨"/bin/wasm-opt"⟩ = .ok ["bin", "wasm-opt"] :=
    FileTree.resolve_of_leadsDown rfl rfl rfl rfl
  have nowhere (follow : Bool) :
      brokenReady.tree.place ["work"] ⟨"/no/such/shell"⟩ follow = .error .notFound :=
    FileTree.place_of_linkless rfl rfl
  have missing : brokenReady.tree.node ["work"] ⟨"/no/such/shell"⟩ = .error .notFound := by
    rw [FileTree.node, FileTree.resolve, nowhere]
    rfl
  have tool : Octet.toPath (Octet.ofText brokenCommand.program) = ⟨"/bin/wasm-opt"⟩ := by
    decide +kernel
  have shell : Octet.toPath "/no/such/shell" = ⟨"/no/such/shell"⟩ := by decide +kernel
  have there : brokenReady.tree.node ["work"]
      (Octet.toPath (Octet.ofText brokenCommand.program)) =
      .ok (.file (Utf8.encode "#!/no/such/shell\nexit 0\n") Node.programMode) := by
    rw [tool]
    exact FileTree.node_of_find? script rfl
  have read : Shell.interpreter? (Utf8.encode "#!/no/such/shell\nexit 0\n") =
      .ok ("/no/such/shell", none) := rfl
  exact runCommand_of_noInterpreter (by decide +kernel) (by decide +kernel) rfl
    (by decide +kernel) there (by decide) read (by decide) (shell ▸ missing)

theorem refused_brokenTrial : brokenTrial.Refused .notFound := by
  have found : platform.locate "wasm-opt" brokenTool = (some ⟨"/bin/wasm-opt"⟩, brokenTool) :=
    congrArg (·, brokenTool) locate_brokenTool
  have made : platform.makeScratch brokenTool = (.ok (pathOf scratch),
      { brokenTool with tree := brokenTool.tree.put scratch .directory }) := rfl
  have laid : platform.writeFile ((pathOf scratch).join ⟨"input.wasm"⟩) [0x00, 0xaa]
      { brokenTool with tree := brokenTool.tree.put scratch .directory } = (.ok (), brokenReady) :=
    writeFile_of_ok (FileTree.writeFile_of_none _ rfl (FileTree.place_of_leadsDown rfl rfl rfl) rfl)
  have run : platform.run brokenCommand brokenReady =
      (.error .notFound, brokenReady) := by
    change ((brokenReady.runCommand brokenCommand).2, (brokenReady.runCommand brokenCommand).1) = _
    rw [runCommand_brokenReady]
  exact ⟨pathOf scratch, brokenReady, ⟨"/bin/wasm-opt"⟩, brokenReady, ⟨found, made, laid⟩, run⟩

/-- **An optimizer that is installed is skipped** if the program that reads it is missing. -/
theorem installed_tool_skipped :
    (platform.locate "wasm-opt" brokenTool).1 = some ⟨"/bin/wasm-opt"⟩ ∧
    ((platform.sizePass "wasm-opt").apply [0x00, 0xaa] brokenTool).1 =
      .error (.unavailable "wasm-opt") ∧
    ((platform.sizePass "wasm-opt").applyOptional platform [0x00, 0xaa] brokenTool).1 =
      .ok [0x00, 0xaa] := by
  have unavailable : brokenTrial.outcome = .error (.unavailable "wasm-opt") :=
    Trial.outcome_eq_unavailable_iff.2 ⟨rfl, .inr refused_brokenTrial⟩
  refine ⟨locate_brokenTool, unavailable, ?_⟩
  change brokenTrial.optional = _
  rw [Trial.optional_eq, unavailable]
  rfl

end Sandbox

end WasmBindings
