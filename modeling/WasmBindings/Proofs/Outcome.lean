import WasmBindings.Module.Resolve

/-!
# Checks in a row

Work that may fail stops at its first error. So a row of checks succeeds if each of them does, and
the error of a row is the error of one of its members.
-/

namespace WasmBindings.Outcome

variable {ε α β : Type}

theorem bind_eq_ok_iff {x : Except ε α} {f : α → Except ε β} {b : β} :
    (x >>= f) = .ok b ↔ ∃ a, x = .ok a ∧ f a = .ok b := by
  constructor
  · intro h
    cases x with
    | error e => cases h
    | ok a => exact ⟨a, rfl, h⟩
  · intro given
    obtain ⟨a, rfl, h⟩ := given
    exact h

/-- What follows a check is done if the check succeeds. -/
theorem check_bind_eq_ok_iff {check : Except ε Unit} {next : Unit → Except ε β} {b : β} :
    (check >>= next) = .ok b ↔ check = .ok () ∧ next () = .ok b := by
  rw [bind_eq_ok_iff]
  constructor
  · intro h
    obtain ⟨⟨⟩, passed, rest⟩ := h
    exact ⟨passed, rest⟩
  · intro h
    obtain ⟨passed, rest⟩ := h
    exact ⟨(), passed, rest⟩

theorem bind_eq_error_iff {x : Except ε α} {f : α → Except ε β} {e : ε} :
    (x >>= f) = .error e ↔ x = .error e ∨ ∃ a, x = .ok a ∧ f a = .error e := by
  constructor
  · intro h
    cases x with
    | error e' => cases h; exact Or.inl rfl
    | ok a => exact Or.inr ⟨a, rfl, h⟩
  · intro given
    rcases given with rfl | ⟨a, rfl, h⟩
    · rfl
    · exact h

theorem map_eq_ok_iff {f : α → β} {x : Except ε α} {b : β} :
    f <$> x = .ok b ↔ ∃ a, x = .ok a ∧ b = f a := by
  cases x <;> simp [Functor.map, Except.map, eq_comm]

theorem map_eq_error_iff {f : α → β} {x : Except ε α} {e : ε} :
    f <$> x = .error e ↔ x = .error e := by
  cases x <;> simp [Functor.map, Except.map]

/-- What is only made of a result has no errors of its own. -/
theorem bind_pure_eq_error_iff {f : α → β} {x : Except ε α} {e : ε} :
    (x >>= fun a => pure (f a)) = .error e ↔ x = .error e := map_eq_error_iff

theorem require_eq_ok_iff {p : Prop} [Decidable p] {e : ε} : require p e = .ok () ↔ p := by
  unfold require
  by_cases h : p
  · simp [h]
  · simp [h]

theorem require_eq_error_iff {p : Prop} [Decidable p] {e e' : ε} :
    require p e = .error e' ↔ ¬ p ∧ e' = e := by
  unfold require
  by_cases h : p
  · simp [h]
  · simp [h, eq_comm]

/-- A row of checks succeeds if each check does. -/
theorem forM_eq_ok_iff {f : α → Except ε Unit} {items : List α} :
    items.forM f = .ok () ↔ ∀ a ∈ items, f a = .ok () := by
  induction items with
  | nil => simp [List.forM, pure, Except.pure]
  | cons a items ih =>
    change (f a >>= fun _ => items.forM f) = _ ↔ _
    rw [check_bind_eq_ok_iff, List.forall_mem_cons, ih]

/-- The results of a row are as many as its members, and each is the result of one of them. -/
theorem mapM_eq_replicate {f : α → Except ε β} {b : β} {items : List α}
    {results : List β} (h : items.mapM f = .ok results) (all : ∀ a c, f a = .ok c → c = b) :
    results = List.replicate items.length b := by
  induction items generalizing results with
  | nil =>
    cases h
    rfl
  | cons a items ih =>
    rw [List.mapM_cons] at h
    obtain ⟨c, first, h⟩ := bind_eq_ok_iff.1 h
    obtain ⟨rest, others, h⟩ := bind_eq_ok_iff.1 h
    cases h
    rw [all a c first, ih others, List.length_cons, List.replicate_succ]

/-- The members that a row selects, if each step selects what another selection does. -/
theorem filterMap_mapM_eq {γ : Type} {f : α → Except ε (Option β)} {g : α → Option γ}
    {wrap : γ → β} {items : List α} {results : List (Option β)} (h : items.mapM f = .ok results)
    (same : ∀ a c, f a = .ok c → c = (g a).map wrap) :
    results.filterMap id = (items.filterMap g).map wrap := by
  induction items generalizing results with
  | nil =>
    cases h
    rfl
  | cons a items ih =>
    rw [List.mapM_cons] at h
    obtain ⟨c, first, h⟩ := bind_eq_ok_iff.1 h
    obtain ⟨rest, others, h⟩ := bind_eq_ok_iff.1 h
    cases h
    rw [same a c first]
    cases found : g a with
    | none =>
      rw [List.filterMap_cons_none found, ← ih others]
      rfl
    | some b =>
      rw [List.filterMap_cons_some found, List.map_cons, ← ih others]
      rfl

/-! ## The first error of a row -/

/-- The error of the first item that has one. -/
def First (Fails : α → ε → Prop) (items : List α) (e : ε) : Prop :=
  ∃ before a after, items = before ++ a :: after ∧ (∀ x ∈ before, ∀ e, ¬ Fails x e) ∧ Fails a e

variable {Fails : α → ε → Prop} {items others : List α} {a : α} {e : ε}

theorem not_first_nil : ¬ First Fails [] e := by
  intro h
  obtain ⟨before, a, after, split, _⟩ := h
  exact absurd split (by simp)

theorem first_cons_iff : First Fails (a :: items) e ↔
    Fails a e ∨ (∀ e, ¬ Fails a e) ∧ First Fails items e := by
  constructor
  · intro h
    obtain ⟨before, x, after, split, sound, fails⟩ := h
    cases before with
    | nil =>
      obtain ⟨rfl, rfl⟩ := List.cons.inj split
      exact .inl fails
    | cons b before =>
      obtain ⟨rfl, rfl⟩ := List.cons.inj split
      rw [List.forall_mem_cons] at sound
      exact .inr ⟨sound.1, before, x, after, rfl, sound.2, fails⟩
  · intro given
    rcases given with fails | ⟨first, before, x, after, rfl, sound, fails⟩
    · exact ⟨[], a, items, rfl, by simp, fails⟩
    · exact ⟨a :: before, x, after, rfl, List.forall_mem_cons.2 ⟨first, sound⟩, fails⟩

theorem first_singleton_iff : First Fails [a] e ↔ Fails a e := by
  simp [first_cons_iff, not_first_nil]

/-- A second row comes into play only if the first one has no error. -/
theorem first_append_iff : First Fails (items ++ others) e ↔
    First Fails items e ∨ (∀ x ∈ items, ∀ e, ¬ Fails x e) ∧ First Fails others e := by
  induction items with
  | nil => simp [not_first_nil]
  | cons a items ih =>
    rw [List.cons_append, first_cons_iff, first_cons_iff, ih, List.forall_mem_cons, and_or_left,
      or_assoc, and_assoc]

theorem first_map_iff {f : β → α} {sources : List β} :
    First Fails (sources.map f) e ↔ First (fun b => Fails (f b)) sources e := by
  induction sources with
  | nil => exact iff_of_false not_first_nil not_first_nil
  | cons b sources ih => rw [List.map_cons, first_cons_iff, first_cons_iff, ih]

/-- Items that are passed over have no errors. -/
theorem first_filter_iff {p : α → Bool} :
    First Fails (items.filter p) e ↔ First (fun a e => p a ∧ Fails a e) items e := by
  induction items with
  | nil => exact iff_of_false not_first_nil not_first_nil
  | cons a items ih =>
    rw [first_cons_iff, List.filter_cons, ← ih]
    by_cases hp : p a
    · simp [hp, first_cons_iff]
    · simp [hp]

/-- The first error is the error of one of the items. -/
theorem First.exists_mem (first : First Fails items e) : ∃ a ∈ items, Fails a e := by
  obtain ⟨before, a, after, rfl, _, fails⟩ := first
  exact ⟨a, List.mem_append_right _ List.mem_cons_self, fails⟩

/-- There is a first error unless there is none. -/
theorem forall_not_first_iff :
    (∀ e, ¬ First Fails items e) ↔ ∀ a ∈ items, ∀ e, ¬ Fails a e := by
  induction items with
  | nil => simp [not_first_nil]
  | cons a items ih =>
    rw [List.forall_mem_cons, ← ih]
    constructor
    · intro none
      have sound : ∀ e, ¬ Fails a e := fun e fails => none e (first_cons_iff.2 (.inl fails))
      exact ⟨sound, fun e first => none e (first_cons_iff.2 (.inr ⟨sound, first⟩))⟩
    · intro given e first
      rcases first_cons_iff.1 first with fails | ⟨_, first⟩
      · exact given.1 e fails
      · exact given.2 e first

/-- Work that succeeds has no error, and work that does not has one. -/
theorem exists_ok_iff {x : Except ε β} : (∃ b, x = .ok b) ↔ ∀ e, x ≠ .error e := by
  cases x with
  | error e => simp
  | ok b => simp

/-- What follows a check comes into play only if the check has no error. -/
theorem check_bind_eq_error_iff {check : Except ε Unit} {next : Unit → Except ε β} :
    (check >>= next) = .error e ↔
      check = .error e ∨ (∀ e, check ≠ .error e) ∧ next () = .error e := by
  rw [bind_eq_error_iff, ← exists_ok_iff, ← exists_and_right]

/-- Checks follow one another as the items do that they are about. -/
theorem check_bind_eq_error_iff_first {check : Except ε Unit} {next : Unit → Except ε β}
    (one : ∀ e, check = .error e ↔ First Fails items e)
    (two : ∀ e, next () = .error e ↔ First Fails others e) :
    (check >>= next) = .error e ↔ First Fails (items ++ others) e := by
  rw [check_bind_eq_error_iff, first_append_iff, ← forall_not_first_iff, two]
  simp only [ne_eq, one]

/-- A row of checks stops at the first error. -/
theorem forM_eq_error_iff {f : α → Except ε Unit} :
    items.forM f = .error e ↔ First (fun a e => f a = .error e) items e := by
  induction items with
  | nil => exact iff_of_false (fun h => nomatch h) not_first_nil
  | cons a items ih =>
    change (f a >>= fun _ => items.forM f) = _ ↔ _
    rw [check_bind_eq_error_iff, first_cons_iff, ih]

/-- **A row of work stops at the first error.** -/
theorem mapM_eq_error_iff {f : α → Except ε β} :
    items.mapM f = .error e ↔ First (fun a e => f a = .error e) items e := by
  induction items with
  | nil => exact iff_of_false (fun h => nomatch h) not_first_nil
  | cons a items ih =>
    rw [List.mapM_cons, bind_eq_error_iff, first_cons_iff, ← ih]
    refine or_congr_right ?_
    change (∃ b, f a = .ok b ∧ (items.mapM f >>= fun bs => pure (b :: bs)) = .error e) ↔
      (∀ e, f a ≠ .error e) ∧ _
    rw [← exists_ok_iff, ← exists_and_right]
    refine exists_congr fun b => and_congr_right fun _ => ?_
    exact bind_pure_eq_error_iff

end WasmBindings.Outcome
