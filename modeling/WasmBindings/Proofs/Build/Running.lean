import WasmBindings.Build.Pipeline

/-!
# Running builds in a state

What is done by a build on a platform that lives in a state, step by step. A tool is judged by
whether it was started and by how it ended. Writing several files ends in one of two ways
(`Platform.Writing`): all of them are written one after the other, or one of them fails, and those
before it are retracted.
-/

namespace WasmBindings

theorem attempt_apply {σ ε δ α : Type} (wrap : ε → δ) (operation : StateM σ (Except ε α)) (s : σ) :
    attempt wrap operation s = ((operation s).1.mapError wrap, (operation s).2) := rfl

theorem bind_apply_of_ok {σ ε α β : Type} {x : ExceptT ε (StateM σ) α} {s s' : σ} {a : α}
    (h : x s = (.ok a, s')) (f : α → ExceptT ε (StateM σ) β) : (x >>= f) s = f a s' := by
  change (x s |> fun p => ExceptT.bindCont f p.1 p.2 : Except ε β × σ) = _
  rw [h]
  rfl

theorem bind_apply_of_error {σ ε α β : Type} {x : ExceptT ε (StateM σ) α} {s s' : σ} {e : ε}
    (h : x s = (.error e, s')) (f : α → ExceptT ε (StateM σ) β) :
    (x >>= f) s = (.error e, s') := by
  change (x s |> fun p => ExceptT.bindCont f p.1 p.2 : Except ε β × σ) = _
  rw [h]
  rfl

theorem stateBind_apply {σ α β : Type} {x : StateM σ α} {s s' : σ} {a : α} (h : x s = (a, s'))
    (f : α → StateM σ β) : (x >>= f) s = f a s' := by
  change f (x s).1 (x s).2 = _
  rw [h]

/-- Nothing goes wrong in what is lifted. -/
theorem lift_apply {σ ε α : Type} {x : StateM σ α} {s s' : σ} {a : α} (h : x s = (a, s')) :
    (liftM x : ExceptT ε (StateM σ) α) s = (.ok a, s') := by
  change (Except.ok (x s).1, (x s).2) = _
  rw [h]

namespace Platform

variable {σ : Type} {p : Platform (StateM σ)} {s s' : σ} {path : Path} {contents : Bytes}
  {written : List Path} {rest : List (Path × Bytes)}

/-! ## Running tools -/

theorem judge_of_success {completion : Completion} {tool : String}
    (success : completion.status.isSuccess) : judge tool completion = .ok () := by
  rw [judge, if_pos success]

/-- A tool that has not been started is judged by why. -/
theorem runTool_of_error {command : Command} {error : IoError}
    (run : p.run command s = (.error error, s')) (tool : String) :
    p.runTool tool command s = (.error (startError tool error), s') := by
  have run' : attempt (startError tool) (p.run command) s =
      (.error (startError tool error), s') := by
    rw [attempt_apply, run]
    rfl
  rw [runTool, bind_apply_of_error run']

/-- A tool that has run is judged by how it ended. -/
theorem runTool_of_run {command : Command} {completion : Completion}
    (run : p.run command s = (.ok completion, s')) (tool : String) :
    p.runTool tool command s = (judge tool completion, s') := by
  have run' : attempt (startError tool) (p.run command) s = (.ok completion, s') := by
    rw [attempt_apply, run]
    rfl
  rw [runTool, bind_apply_of_ok run']
  rfl

/-! ## Writing files -/

/-- Files that are written one after the other, each with success. -/
inductive Wrote (p : Platform (StateM σ)) : σ → List (Path × Bytes) → σ → Prop
  | nil {s : σ} : Wrote p s [] s
  | cons {s s₁ s₂ : σ} {path : Path} {contents : Bytes} {rest : List (Path × Bytes)}
      (first : p.writeFile path contents s = (.ok (), s₁))
      (others : Wrote p (p.info s!"wrote {path.text}" s₁).2 rest s₂) :
      Wrote p s ((path, contents) :: rest) s₂

/-- The state after some paths have been retracted. -/
def retracted (p : Platform (StateM σ)) (paths : List Path) (s : σ) : σ :=
  paths.foldl (fun s path => (p.retract path s).2) s

/-- How the writing of files can end, after some have been written already. -/
inductive Writing (p : Platform (StateM σ)) (written : List Path) (s : σ)
    (files : List (Path × Bytes)) : Except BuildError (List Path) × σ → Prop
  | whole {s' : σ} (wrote : p.Wrote s files s') :
      Writing p written s files (.ok (written ++ files.map (·.1)), s')
  | stopped {before after : List (Path × Bytes)} {path : Path} {contents : Bytes} {error : IoError}
      {s₁ s₂ : σ} (split : files = before ++ (path, contents) :: after)
      (wrote : p.Wrote s before s₁) (failed : p.writeFile path contents s₁ = (.error error, s₂)) :
      Writing p written s files
        (.error (.io path error), p.retracted (written ++ before.map (·.1)) s₂)

theorem forM_retract (paths : List Path) (s : σ) :
    (paths.forM fun path =>
        (ExceptT.lift (p.retract path) : ExceptT BuildError (StateM σ) Unit)) s =
      (.ok (), p.retracted paths s) := by
  induction paths generalizing s with
  | nil => rfl
  | cons path paths ih =>
    have first : (ExceptT.lift (p.retract path) : ExceptT BuildError (StateM σ) Unit) s =
        (.ok (), (p.retract path s).2) := lift_apply rfl
    change ((ExceptT.lift (p.retract path) : ExceptT BuildError (StateM σ) Unit) >>= fun _ =>
      paths.forM fun path => ExceptT.lift (p.retract path)) s = _
    rw [bind_apply_of_ok first, ih]
    rfl

theorem writeFiles_cons_of_ok (first : p.writeFile path contents s = (.ok (), s')) :
    p.writeFiles written ((path, contents) :: rest) s =
      p.writeFiles (written ++ [path]) rest (p.info s!"wrote {path.text}" s').2 := by
  rw [writeFiles, bind_apply_of_ok (lift_apply first)]
  rfl

theorem writeFiles_cons_of_error {error : IoError}
    (first : p.writeFile path contents s = (.error error, s')) :
    p.writeFiles written ((path, contents) :: rest) s =
      (.error (.io path error), p.retracted written s') := by
  rw [writeFiles, bind_apply_of_ok (lift_apply first)]
  dsimp only
  rw [bind_apply_of_ok (forM_retract written s')]
  rfl

/-- **The writing of files ends well, or stops at the first that fails.** -/
theorem writing_writeFiles (p : Platform (StateM σ)) (written : List Path) (s : σ)
    (files : List (Path × Bytes)) : p.Writing written s files (p.writeFiles written files s) := by
  induction files generalizing written s with
  | nil =>
    have whole : p.Writing written s [] (.ok (written ++ []), s) := .whole .nil
    rw [List.append_nil] at whole
    exact whole
  | cons file rest ih =>
    obtain ⟨path, contents⟩ := file
    cases first : p.writeFile path contents s with
    | mk outcome s₁ =>
    cases outcome with
    | error error =>
      have stopped : p.Writing written s ((path, contents) :: rest)
          (.error (.io path error), p.retracted (written ++ []) s₁) :=
        .stopped (List.nil_append _).symm .nil first
      rw [List.append_nil] at stopped
      rw [writeFiles_cons_of_error first]
      exact stopped
    | ok _ =>
      rw [writeFiles_cons_of_ok first]
      generalize ends : p.writeFiles (written ++ [path]) rest _ = outcome
      have later := ih (written ++ [path]) (p.info s!"wrote {path.text}" s₁).2
      rw [ends] at later
      cases later with
      | whole wrote =>
        rw [List.append_assoc]
        exact .whole (.cons first wrote)
      | @stopped before after path' contents' _ _ _ split wrote failed =>
        have whole : (path, contents) :: rest =
            ((path, contents) :: before) ++ (path', contents') :: after := by
          rw [split, List.cons_append]
        rw [List.append_assoc]
        exact .stopped whole (.cons first wrote) failed

end Platform

end WasmBindings
