import WasmBindings.Proofs.Build.Writing

/-!
# The stages of a build

A build is looked at from outside: its tools are functions of what they are handed over and of the
files they find, and each call of one of them is noted. What a build calls, and what it comes to
before it writes anything, is a relation on its own (`Course`), with one case for each stage that
can fail. A build follows it (`Sandbox.build_follows`): it ends with the first failure, or it writes
the artifacts and ends as that does.

A build makes no directory for its artifacts before that. But to make the cache directory it makes
all that is missing on the way there, and a way can lead over the output directory and back.
-/

namespace WasmBindings

/-! ## Tools as functions -/

/-- A call of a tool, with what is handed over. -/
inductive Call where
  | compile (input cache : Path) (profile : Profile)
  | deadCode (wasm : Bytes)
  | size (wasm : Bytes)
  deriving DecidableEq, Repr

/-- Tools as functions of what they are handed over and of the files they find, which they may
change. -/
structure Stages where
  compile : Path → Path → Profile → FileTree → Except BuildError Compiled × FileTree
  deadCodeName : String
  deadCode : Bytes → FileTree → Except ToolError Bytes × FileTree
  sizeName : String
  size : Bytes → FileTree → Except ToolError Bytes × FileTree

/-- A state, and the calls that led there. -/
structure Watched (σ : Type) where
  calls : List Call
  state : σ

namespace Watched

variable {σ α ε : Type}

/-- What is done without tools goes unnoted. -/
instance : MonadLift (StateM σ) (StateM (Watched σ)) where
  monadLift x := fun w => ((x w.state).1, { w with state := (x w.state).2 })

/-- Calls a tool and notes it. -/
def call (c : Call) (tool : FileTree → Except ε α × FileTree) :
    ExceptT ε (StateM (Watched Sandbox)) α := fun w =>
  let (outcome, tree) := tool w.state.tree
  (outcome, ⟨w.calls ++ [c], { w.state with tree }⟩)

end Watched

/-- The tools of a build, each of whose calls is noted. -/
def Stages.toolchain (stages : Stages) : Toolchain (StateM (Watched Sandbox)) where
  compiler.compile input cache profile :=
    Watched.call (.compile input cache profile) (stages.compile input cache profile)
  deadCode.name := stages.deadCodeName
  deadCode.apply wasm := Watched.call (.deadCode wasm) (stages.deadCode wasm)
  size.name := stages.sizeName
  size.apply wasm := Watched.call (.size wasm) (stages.size wasm)

/-! ## The course of a build -/

/-- What the pass for size makes of a binary: nothing in builds for inspection, and nothing if its
tool is not there. -/
inductive Shrinks (stages : Stages) (wasm : Bytes) (t : FileTree) :
    Profile → List Call → Except ToolError Bytes → FileTree → Prop
  | unasked : Shrinks stages wasm t .debug [] (.ok wasm) t
  | done {small : Bytes} {t' : FileTree} (h : stages.size wasm t = (.ok small, t')) :
      Shrinks stages wasm t .release [.size wasm] (.ok small) t'
  | skipped {tool : String} {t' : FileTree}
      (h : stages.size wasm t = (.error (.unavailable tool), t')) :
      Shrinks stages wasm t .release [.size wasm] (.ok wasm) t'
  | failed {error : ToolError} {t' : FileTree} (h : stages.size wasm t = (.error error, t'))
      (there : ∀ tool, error ≠ .unavailable tool) :
      Shrinks stages wasm t .release [.size wasm] (.error error) t'

/-- What both passes make of a binary. -/
inductive Processes (stages : Stages) (wasm : Bytes) (t : FileTree) (profile : Profile) :
    List Call → Except ToolError Bytes → FileTree → Prop
  | failed {error : ToolError} {t' : FileTree} (h : stages.deadCode wasm t = (.error error, t')) :
      Processes stages wasm t profile [.deadCode wasm] (.error error) t'
  | trimmed {trimmed : Bytes} {t' t'' : FileTree} {calls : List Call}
      {outcome : Except ToolError Bytes} (h : stages.deadCode wasm t = (.ok trimmed, t'))
      (shrinks : Shrinks stages trimmed t' profile calls outcome t'') :
      Processes stages wasm t profile (.deadCode wasm :: calls) outcome t''

/-- What a build does until it writes: the calls of tools, then an error or a name and artifacts,
and the files by then. -/
inductive Course (stages : Stages) (plan : BuildPlan) (paths : BuildPaths) (t : FileTree) :
    List Call → Except BuildError (String × Artifacts) → FileTree → Prop
  | uncompiled {error : BuildError} {t' : FileTree}
      (h : stages.compile paths.input paths.cache plan.profile t = (.error error, t')) :
      Course stages plan paths t [.compile paths.input paths.cache plan.profile] (.error error) t'
  | unprocessed {compiled : Compiled} {t' t'' : FileTree} {calls : List Call} {error : ToolError}
      (h : stages.compile paths.input paths.cache plan.profile t = (.ok compiled, t'))
      (processes : Processes stages compiled.wasm t' plan.profile calls (.error error) t'') :
      Course stages plan paths t (.compile paths.input paths.cache plan.profile :: calls)
        (.error (.tool error)) t''
  | processed {compiled : Compiled} {t' t'' : FileTree} {calls : List Call} {wasm : Bytes}
      (h : stages.compile paths.input paths.cache plan.profile t = (.ok compiled, t'))
      (processes : Processes stages compiled.wasm t' plan.profile calls (.ok wasm) t'') :
      Course stages plan paths t (.compile paths.input paths.cache plan.profile :: calls)
        ((Artifacts.generate wasm plan.output).map (compiled.name, ·)) t''

/-! ## Places that are spared -/

/-- Whether everything at a place and below is the same in both trees. -/
def FileTree.SameBelow (t t' : FileTree) (root : Place) : Prop :=
  ∀ place, root <+: place → t'.find? place = t.find? place

/-- Tools that have no effect on a place and what is below it. -/
structure Stages.Spares (stages : Stages) (root : Place) : Prop where
  compile : ∀ input cache profile (t : FileTree),
    t.SameBelow (stages.compile input cache profile t).2 root
  deadCode : ∀ wasm (t : FileTree), t.SameBelow (stages.deadCode wasm t).2 root
  size : ∀ wasm (t : FileTree), t.SameBelow (stages.size wasm t).2 root

/-- Whether no directory that is missing on the way of a path lies at a place or below it, where
`made` is the tree in which none is missing any more. -/
def FileTree.Avoids (t made : FileTree) (home : Place) (p : Path) (root : Place) : Prop :=
  ∀ outer ∈ p.ancestors, ∀ place, made.place home outer = .ok place → root <+: place →
    (t.find? place).isSome

namespace FileTree

variable {t t' t'' : FileTree} {root : Place}

theorem SameBelow.trans (first : SameBelow t t' root) (second : SameBelow t' t'' root) :
    SameBelow t t'' root :=
  fun place below => (second place below).trans (first place below)

/-- Making directories changes nothing below a place that is avoided. -/
theorem sameBelow_createDirectories {home : Place} {p : Path} {made : FileTree}
    {outcome : Except IoError Unit} (h : t.createDirectories home p = (made, outcome))
    (avoids : t.Avoids made home p root) : t.SameBelow made root := by
  have grown : GrowsAlong home p.ancestors t made := by
    have grown := makeFirst_growsAlong t home p.ancestors
    rwa [← createDirectories, h] at grown
  intro place below
  refine Decidable.byContradiction fun changed => ?_
  obtain ⟨outer, mem, led⟩ := grown.along place changed
  obtain ⟨node, there⟩ := Option.isSome_iff_exists.1 (avoids outer mem place led below)
  exact changed ((grown.grows.find? there).trans there.symm)

end FileTree

variable {stages : Stages} {plan : BuildPlan} {paths : BuildPaths} {t t' : FileTree} {root : Place}
  {calls : List Call} {profile : Profile} {wasm : Bytes}

theorem Shrinks.sameBelow {outcome : Except ToolError Bytes} (spares : stages.Spares root)
    (h : Shrinks stages wasm t profile calls outcome t') : t.SameBelow t' root := by
  have size := spares.size wasm t
  cases h with
  | unasked => exact fun _ _ => rfl
  | done h => rwa [h] at size
  | skipped h => rwa [h] at size
  | failed h there => rwa [h] at size

theorem Processes.sameBelow {outcome : Except ToolError Bytes} (spares : stages.Spares root)
    (h : Processes stages wasm t profile calls outcome t') : t.SameBelow t' root := by
  have deadCode := spares.deadCode wasm t
  cases h with
  | failed h => rwa [h] at deadCode
  | trimmed h shrinks =>
    rw [h] at deadCode
    exact deadCode.trans (shrinks.sameBelow spares)

theorem Course.sameBelow {outcome : Except BuildError (String × Artifacts)}
    (spares : stages.Spares root) (h : Course stages plan paths t calls outcome t') :
    t.SameBelow t' root := by
  have compile := spares.compile paths.input paths.cache plan.profile t
  cases h with
  | uncompiled h => rwa [h] at compile
  | unprocessed h processes =>
    rw [h] at compile
    exact compile.trans (processes.sameBelow spares)
  | processed h processes =>
    rw [h] at compile
    exact compile.trans (processes.sameBelow spares)

/-! ## Platforms seen from outside -/

namespace Platform

variable {σ : Type} (p : Platform (StateM σ))

/-- The platform for a build whose calls are noted. -/
abbrev watched : Platform (StateM (Watched σ)) := p.lift

theorem watched_retract (path : Path) (calls : List Call) (s : σ) :
    p.watched.retract path ⟨calls, s⟩ = ((), ⟨calls, (p.retract path s).2⟩) := by
  cases removed : p.removeFile path s with
  | mk outcome s' =>
  have removed' : p.watched.removeFile path ⟨calls, s⟩ = (outcome, ⟨calls, s'⟩) := by
    change ((p.removeFile path s).1, (⟨calls, (p.removeFile path s).2⟩ : Watched σ)) = _
    rw [removed]
  unfold retract
  rw [stateBind_apply removed, stateBind_apply removed']
  cases outcome <;> rfl

theorem watched_retracted (written : List Path) (calls : List Call) (s : σ) :
    p.watched.retracted written ⟨calls, s⟩ = ⟨calls, p.retracted written s⟩ := by
  induction written generalizing s with
  | nil => rfl
  | cons path written ih =>
    change p.watched.retracted written (p.watched.retract path ⟨calls, s⟩).2 = _
    rw [watched_retract]
    exact ih _

/-- Writing files calls no tools. -/
theorem watched_writeFiles (written : List Path) (files : List (Path × Bytes)) (calls : List Call)
    (s : σ) : p.watched.writeFiles written files ⟨calls, s⟩ =
      ((p.writeFiles written files s).1, ⟨calls, (p.writeFiles written files s).2⟩) := by
  induction files generalizing written s with
  | nil => rfl
  | cons file files ih =>
    obtain ⟨path, contents⟩ := file
    cases first : p.writeFile path contents s with
    | mk outcome s' =>
    have first' : p.watched.writeFile path contents ⟨calls, s⟩ = (outcome, ⟨calls, s'⟩) := by
      change ((p.writeFile path contents s).1,
        (⟨calls, (p.writeFile path contents s).2⟩ : Watched σ)) = _
      rw [first]
    cases outcome with
    | error error =>
      rw [writeFiles_cons_of_error first, writeFiles_cons_of_error first', watched_retracted]
    | ok _ =>
      rw [writeFiles_cons_of_ok first, writeFiles_cons_of_ok first']
      exact ih _ _

theorem watched_writeArtifacts (name : String) (artifacts : Artifacts) (out : Path)
    (calls : List Call) (s : σ) : p.watched.writeArtifacts name artifacts out ⟨calls, s⟩ =
      ((p.writeArtifacts name artifacts out s).1,
        ⟨calls, (p.writeArtifacts name artifacts out s).2⟩) := by
  cases made : p.createDirectories out s with
  | mk outcome s' =>
  have made' : attempt (BuildError.io out) (p.createDirectories out) s =
      (outcome.mapError (.io out), s') := by
    rw [attempt_apply, made]
  have made'' : attempt (BuildError.io out) (p.watched.createDirectories out) ⟨calls, s⟩ =
      (outcome.mapError (.io out), ⟨calls, s'⟩) := by
    rw [attempt_apply]
    change ((p.createDirectories out s).1.mapError _,
      (⟨calls, (p.createDirectories out s).2⟩ : Watched σ)) = _
    rw [made]
  unfold writeArtifacts
  cases outcome with
  | error error => rw [bind_apply_of_error made', bind_apply_of_error made'']
  | ok _ =>
    rw [bind_apply_of_ok made', bind_apply_of_ok made'']
    exact watched_writeFiles p _ _ _ _

end Platform

namespace Sandbox

variable {faults : Path → Option WriteFault} {s : Sandbox}

/-! ## Runs of builds -/

/-- Calling a tool notes the call and changes the files as the tool does. -/
theorem call_apply {α ε : Type} {c : Call} {tool : FileTree → Except ε α × FileTree} {t : FileTree}
    {outcome : Except ε α} (h : tool s.tree = (outcome, t)) (calls : List Call) :
    Watched.call c tool ⟨calls, s⟩ = (outcome, ⟨calls ++ [c], { s with tree := t }⟩) := by
  change ((tool s.tree).1,
    (⟨calls ++ [c], { s with tree := (tool s.tree).2 }⟩ : Watched Sandbox)) = _
  rw [h]

/-- Reporting adds to the log. -/
theorem watched_info {ε : Type} (text : String) (calls : List Call) (t : FileTree) (log : Log) :
    (liftM ((faulty faults).watched.info text) : ExceptT ε (StateM (Watched Sandbox)) Unit)
        ⟨calls, { s with tree := t, log }⟩ =
      (.ok (), ⟨calls, { s with tree := t, log := log ++ [⟨.info, text⟩] }⟩) := rfl

/-- The pass for size, which is not asked for in builds for inspection. -/
theorem shrinks_applyOptional (faults : Path → Option WriteFault) (stages : Stages) (wasm : Bytes)
    (calls : List Call) (s : Sandbox) (t : FileTree) (log : Log) :
    ∃ outcome t' log', Shrinks stages wasm t .release [.size wasm] outcome t' ∧
      stages.toolchain.size.applyOptional (faulty faults).watched wasm
          ⟨calls, { s with tree := t, log }⟩ =
        (outcome, ⟨calls ++ [.size wasm], { s with tree := t', log := log' }⟩) := by
  cases applied : stages.size wasm t with
  | mk outcome t' =>
  have run : (stages.toolchain.size.apply wasm).run ⟨calls, { s with tree := t, log }⟩ =
      (outcome, ⟨calls ++ [.size wasm], { s with tree := t', log }⟩) :=
    call_apply applied calls
  unfold Pass.applyOptional
  change ∃ _ _ _, _ ∧ (((stages.toolchain.size.apply wasm).run >>= _ :
    StateM (Watched Sandbox) (Except ToolError Bytes)) _) = _
  rw [stateBind_apply run]
  cases outcome with
  | ok small => exact ⟨_, _, _, .done applied, rfl⟩
  | error error =>
    cases error with
    | unavailable tool => exact ⟨_, _, _, .skipped applied, rfl⟩
    | failed | missingOutput | io => exact ⟨_, _, _, .failed applied (by simp), rfl⟩

/-- Both passes. -/
theorem processes_postProcess (faults : Path → Option WriteFault) (stages : Stages) (wasm : Bytes)
    (profile : Profile) (calls : List Call) (s : Sandbox) (t : FileTree) (log : Log) :
    ∃ calls' outcome t' log', Processes stages wasm t profile calls' outcome t' ∧
      (faulty faults).watched.postProcess wasm profile stages.toolchain.deadCode
          stages.toolchain.size ⟨calls, { s with tree := t, log }⟩ =
        (outcome, ⟨calls ++ calls', { s with tree := t', log := log' }⟩) := by
  cases applied : stages.deadCode wasm t with
  | mk outcome t' =>
  have run : stages.toolchain.deadCode.apply wasm ⟨calls, { s with tree := t, log }⟩ =
      (outcome, ⟨calls ++ [.deadCode wasm], { s with tree := t', log }⟩) :=
    call_apply applied calls
  unfold Platform.postProcess
  cases outcome with
  | error error =>
    rw [bind_apply_of_error run]
    exact ⟨_, _, _, _, .failed applied, rfl⟩
  | ok trimmed =>
    rw [bind_apply_of_ok run, bind_apply_of_ok (watched_info _ _ _ _)]
    generalize log ++ _ = log
    cases profile with
    | debug => exact ⟨_, _, _, _, .trimmed applied .unasked, rfl⟩
    | release =>
      obtain ⟨outcome, t'', log', shrinks, small⟩ := shrinks_applyOptional faults stages trimmed
        (calls ++ [.deadCode wasm]) s t' log
      rw [List.append_assoc] at small
      dsimp only
      cases outcome with
      | error error =>
        rw [bind_apply_of_error small]
        exact ⟨_, _, _, _, .trimmed applied shrinks, rfl⟩
      | ok small' =>
        rw [bind_apply_of_ok small]
        exact ⟨_, _, _, _, .trimmed applied shrinks, rfl⟩

theorem watched_records (records : Log) (calls : List Call) (t : FileTree) (log : Log) :
    (records.forM fun record => ExceptT.lift ((faulty faults).watched.record record) :
        ExceptT BuildError (StateM (Watched Sandbox)) Unit) ⟨calls, { s with tree := t, log }⟩ =
      (.ok (), ⟨calls, { s with tree := t, log := log ++ records }⟩) := by
  induction records generalizing log with
  | nil => rw [List.append_nil]; rfl
  | cons record records ih =>
    have first : (ExceptT.lift ((faulty faults).watched.record record) :
        ExceptT BuildError (StateM (Watched Sandbox)) Unit) ⟨calls, { s with tree := t, log }⟩ =
        (.ok (), ⟨calls, { s with tree := t, log := log ++ [record] }⟩) := rfl
    have rest := ih (log ++ [record])
    rw [List.append_assoc] at rest
    exact (bind_apply_of_ok first _).trans rest

/-- Making artifacts adds to the log only. -/
theorem watched_generate (binary : Bytes) (output : Output) (calls : List Call) (t : FileTree)
    (log : Log) :
    (faulty faults).watched.generate binary output ⟨calls, { s with tree := t, log }⟩ =
      (Artifacts.generate binary output,
        ⟨calls, { s with tree := t, log := log ++ Artifacts.generateLog binary output }⟩) := by
  rw [Platform.generate, bind_apply_of_ok (watched_records _ _ _ _)]
  rfl

/-- How a build ends that has followed a course: with the error that the course ended with, or as
the writing of its artifacts does. -/
inductive Concludes (faults : Path → Option WriteFault) (out : Path) (calls : List Call)
    (s : Sandbox) : Except BuildError (String × Artifacts) →
      Except BuildError (List Path) × Watched Sandbox → Prop
  | stopped {error : BuildError} :
      Concludes faults out calls s (.error error) (.error error, ⟨calls, s⟩)
  | written {name : String} {artifacts : Artifacts} {result : Except BuildError (List Path)}
      {s' : Sandbox} (h : (faulty faults).writeArtifacts name artifacts out s = (result, s')) :
      Concludes faults out calls s (.ok (name, artifacts)) (result, ⟨calls, s'⟩)

theorem course_build (faults : Path → Option WriteFault) (stages : Stages) (plan : BuildPlan)
    (paths : BuildPaths) (s : Sandbox) {ready : FileTree}
    (made : s.tree.createDirectories s.home paths.cache = (ready, .ok ())) :
    ∃ calls outcome t log, Course stages plan paths ready calls outcome t ∧
      Concludes faults paths.out calls { s with tree := t, log } outcome
        ((faulty faults).watched.build plan stages.toolchain paths ⟨[], s⟩) := by
  have cache (log : Log) : attempt (BuildError.io paths.cache)
      ((faulty faults).watched.createDirectories paths.cache) ⟨[], { s with log }⟩ =
      (.ok (), ⟨[], { s with tree := ready, log }⟩) := by
    rw [attempt_apply]
    change ((s.tree.createDirectories s.home paths.cache).2.mapError _,
      (⟨[], { s with tree := (s.tree.createDirectories s.home paths.cache).1, log }⟩ :
        Watched Sandbox)) = _
    rw [made]
    rfl
  unfold Platform.build
  rw [bind_apply_of_ok (watched_info _ [] s.tree s.log), bind_apply_of_ok (cache _)]
  generalize s.log ++ _ = log
  cases compiled : stages.compile paths.input paths.cache plan.profile ready with
  | mk outcome t =>
  have run : stages.toolchain.compiler.compile paths.input paths.cache plan.profile
      ⟨[], { s with tree := ready, log }⟩ =
      (outcome, ⟨[.compile paths.input paths.cache plan.profile], { s with tree := t, log }⟩) :=
    call_apply compiled []
  cases outcome with
  | error error =>
    rw [bind_apply_of_error run]
    exact ⟨_, _, _, _, .uncompiled compiled, .stopped⟩
  | ok result =>
    rw [bind_apply_of_ok run, bind_apply_of_ok (watched_info _ _ _ _)]
    generalize log ++ _ = log
    obtain ⟨calls, outcome, t', log, processes, run⟩ := processes_postProcess faults stages
      result.wasm plan.profile [.compile paths.input paths.cache plan.profile] s t log
    have run' : attempt BuildError.tool ((faulty faults).watched.postProcess result.wasm
        plan.profile stages.toolchain.deadCode stages.toolchain.size)
        ⟨[.compile paths.input paths.cache plan.profile], { s with tree := t, log := _ }⟩ =
        (outcome.mapError .tool, _) :=
      (attempt_apply _ _ _).trans (congrArg (fun r => (r.1.mapError BuildError.tool, r.2)) run)
    cases outcome with
    | error error =>
      rw [bind_apply_of_error run']
      exact ⟨_, _, _, _, .unprocessed compiled processes, .stopped⟩
    | ok wasm =>
      rw [bind_apply_of_ok run', List.singleton_append]
      have course : Course stages plan paths ready
          (.compile paths.input paths.cache plan.profile :: calls) _ t' :=
        .processed compiled processes
      have artifacts := @watched_generate faults s wasm plan.output
        (.compile paths.input paths.cache plan.profile :: calls) t' log
      cases generated : Artifacts.generate wasm plan.output with
      | error error =>
        rw [generated] at course artifacts
        rw [bind_apply_of_error artifacts]
        exact ⟨_, _, _, _, course, .stopped⟩
      | ok made =>
        rw [generated] at course artifacts
        rw [bind_apply_of_ok artifacts, Platform.watched_writeArtifacts]
        exact ⟨_, _, _, _, course, .written rfl⟩

/-- **A build follows its course,** and until it writes it changes nothing that its cache directory
avoids and its tools spare. -/
theorem build_follows (faults : Path → Option WriteFault) (stages : Stages) (plan : BuildPlan)
    (paths : BuildPaths) (s : Sandbox) (ready : FileTree)
    (made : s.tree.createDirectories s.home paths.cache = (ready, .ok ())) :
    ∃ calls outcome t log, Course stages plan paths ready calls outcome t ∧
      Concludes faults paths.out calls { s with tree := t, log } outcome
        ((faulty faults).watched.build plan stages.toolchain paths ⟨[], s⟩) ∧
      ∀ root, s.tree.Avoids ready s.home paths.cache root → stages.Spares root →
        s.tree.SameBelow t root := by
  obtain ⟨calls, outcome, t, log, course, concludes⟩ := course_build faults stages plan paths s made
  refine ⟨calls, outcome, t, log, course, concludes, fun root avoids spares => ?_⟩
  exact (FileTree.sameBelow_createDirectories made avoids).trans (course.sameBelow spares)

/-! ## Cache directories behind the output directory -/

/-- Tools of which the compiler is not there. -/
def noCompiler : Stages where
  compile _ _ _ t := (.error (.tool (.unavailable "rustc")), t)
  deadCodeName := "wasm-gc"
  deadCode wasm t := (.ok wasm, t)
  sizeName := "wasm-opt"
  size wasm t := (.ok wasm, t)

theorem spares_noCompiler (root : Place) : noCompiler.Spares root :=
  ⟨fun _ _ _ _ _ _ => rfl, fun _ _ _ _ => rfl, fun _ _ _ _ => rfl⟩

/-- What a build without a compiler comes to. -/
theorem build_noCompiler (faults : Path → Option WriteFault) (paths : BuildPaths) {ready : FileTree}
    (made : s.tree.createDirectories s.home paths.cache = (ready, .ok ())) :
    ∃ log, (faulty faults).watched.build {} noCompiler.toolchain paths ⟨[], s⟩ =
      (.error (.tool (.unavailable "rustc")),
        ⟨[.compile paths.input paths.cache .debug], { s with tree := ready, log }⟩) := by
  obtain ⟨calls, outcome, t, log, course, concludes⟩ :=
    course_build faults noCompiler {} paths s made
  generalize (faulty faults).watched.build {} noCompiler.toolchain paths ⟨[], s⟩ = ended
    at concludes ⊢
  cases course with
  | uncompiled h =>
    cases h
    cases concludes
    exact ⟨log, rfl⟩
  | unprocessed h _ => cases h
  | processed h _ => cases h

/-- The working directory with a cache directory, and with what is made on the way to it if that
leads over the output directory. -/
def cacheTree : FileTree := workplace.tree.put ["work", "cache"] .directory

def detourTree : FileTree := readyTree.put ["work", "cache"] .directory

/-- A build that spares the output directory. -/
theorem build_follows_cache :
    workplace.tree.createDirectories ["work"] ⟨"cache"⟩ = (cacheTree, .ok ()) ∧
    workplace.tree.Avoids cacheTree ["work"] ⟨"cache"⟩ ["work", "out"] ∧
    noCompiler.Spares ["work", "out"] ∧
    ∃ calls outcome t log,
      Course noCompiler {} ⟨⟨"."⟩, ⟨"cache"⟩, ⟨"out"⟩⟩ cacheTree calls outcome t ∧
      Concludes (fun _ => none) ⟨"out"⟩ calls { workplace with tree := t, log } outcome
        ((faulty fun _ => none).watched.build {} noCompiler.toolchain
          ⟨⟨"."⟩, ⟨"cache"⟩, ⟨"out"⟩⟩ ⟨[], workplace⟩) ∧
      t.find? ["work", "out"] = none := by
  have made : workplace.tree.createDirectories ["work"] ⟨"cache"⟩ = (cacheTree, .ok ()) :=
    FileTree.makeFirst_of_none [⟨""⟩] rfl (FileTree.place_of_leadsDown rfl rfl rfl) rfl
  have avoids : workplace.tree.Avoids cacheTree ["work"] ⟨"cache"⟩ ["work", "out"] := by
    intro outer mem place led below
    have outers : (⟨"cache"⟩ : Path).ancestors = [⟨"cache"⟩, ⟨""⟩] := rfl
    rw [outers, List.mem_cons, List.mem_singleton] at mem
    rcases mem with rfl | rfl
    · have there : cacheTree.place ["work"] ⟨"cache"⟩ = .ok ["work", "cache"] :=
        FileTree.place_of_linkless rfl rfl
      rw [there] at led
      cases led
      exact absurd below (by decide)
    · cases led
  have spares := spares_noCompiler ["work", "out"]
  obtain ⟨calls, outcome, t, log, course, concludes, spared⟩ := build_follows (fun _ => none)
    noCompiler {} ⟨⟨"."⟩, ⟨"cache"⟩, ⟨"out"⟩⟩ workplace cacheTree made
  exact ⟨made, avoids, spares, calls, outcome, t, log, course, concludes,
    spared _ avoids spares _ List.prefix_rfl⟩

theorem createDirectories_detour :
    workplace.tree.createDirectories ["work"] ⟨"./out/../cache"⟩ = (detourTree, .ok ()) := by
  have out : workplace.tree.makeFirst ["work"] [⟨"./out"⟩, ⟨"."⟩, ⟨""⟩] = (readyTree, .ok ()) :=
    FileTree.makeFirst_of_none _ rfl (FileTree.place_of_linkless rfl rfl) rfl
  have back (follow : Bool) : readyTree.place ["work"] ⟨"./out/.."⟩ follow = .ok ["work"] :=
    FileTree.place_of_linkless rfl rfl
  -- the working directory is there already
  have there : readyTree.makeDirectory ["work"] ⟨"./out/.."⟩ = .error .alreadyExists := by
    rw [FileTree.makeDirectory_of_place (back false)]
    rfl
  have present : readyTree.isDirectory ["work"] ⟨"./out/.."⟩ = true := by
    have node : readyTree.node ["work"] ⟨"./out/.."⟩ = .ok .directory :=
      FileTree.node_of_find? ((FileTree.resolve_of_file rfl).trans (back true)) rfl
    rw [FileTree.isDirectory, node]
    rfl
  have around : workplace.tree.makeFirst ["work"] [⟨"./out/.."⟩, ⟨"./out"⟩, ⟨"."⟩, ⟨""⟩] =
      (readyTree, .ok ()) := by
    rw [FileTree.makeFirst_of_notFound rfl (FileTree.place_of_linkless rfl rfl) out, there]
    dsimp only
    rw [present]
    rfl
  have cache : readyTree.makeDirectory ["work"] ⟨"./out/../cache"⟩ = .ok detourTree := by
    have led : readyTree.place ["work"] ⟨"./out/../cache"⟩ false = .ok ["work", "cache"] :=
      FileTree.place_of_linkless rfl rfl
    rw [FileTree.makeDirectory_of_place led]
    rfl
  have outers : (⟨"./out/../cache"⟩ : Path).ancestors =
    [⟨"./out/../cache"⟩, ⟨"./out/.."⟩, ⟨"./out"⟩, ⟨"."⟩, ⟨""⟩] := rfl
  rw [FileTree.createDirectories, outers,
    FileTree.makeFirst_of_notFound rfl (FileTree.place_of_linkless rfl rfl) around, cache]

/-- **Making the cache directory may make the output directory,** though it lies elsewhere, and then
that stays behind when nothing is compiled. -/
theorem build_makes_output_directory :
    workplace.tree.createDirectories ["work"] ⟨"./out/../cache"⟩ = (detourTree, .ok ()) ∧
    detourTree.place ["work"] ⟨"./out/../cache"⟩ = .ok ["work", "cache"] ∧
    ¬ ["work", "out"] <+: ["work", "cache"] ∧
    noCompiler.Spares ["work", "out"] ∧
    workplace.tree.find? ["work", "out"] = none ∧
    ∃ ended, (faulty fun _ => none).watched.build {} noCompiler.toolchain
        ⟨⟨"."⟩, ⟨"./out/../cache"⟩, ⟨"out"⟩⟩ ⟨[], workplace⟩ =
        (.error (.tool (.unavailable "rustc")), ended) ∧
      ended.state.tree.find? ["work", "out"] = some .directory := by
  obtain ⟨log, run⟩ := build_noCompiler (fun _ => none) ⟨⟨"."⟩, ⟨"./out/../cache"⟩, ⟨"out"⟩⟩
    createDirectories_detour
  exact ⟨createDirectories_detour, FileTree.place_of_linkless rfl rfl, by decide,
    spares_noCompiler _, rfl, _, run, rfl⟩

end Sandbox

end WasmBindings
