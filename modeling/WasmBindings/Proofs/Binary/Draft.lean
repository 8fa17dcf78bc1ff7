import WasmBindings.Proofs.Binary.Format

/-!
# Gathering an interface from sections

Reading the sections of a module takes one step for each of them. `Draft.Step` says what a step
may do to a draft and `Draft.Run` what a whole row of sections may do; the reader of all sections
makes exactly the runs over sections that its window spells (`sections_eq_ok_iff`).

Two things are read off a run. The sections it took stand in the mandated order, and every order
that is mandated can be run (`Run.placed`, `exists_run`). And each field of the draft is changed by
the one section that fills it, if there is one (`Run.tells`).
-/

namespace WasmBindings

theorem SectionKind.id_injective {kind other : SectionKind} (h : kind.id = other.id) :
    kind = other := by
  have kinds := congrArg ofId? h
  rwa [ofId?_id, ofId?_id, Option.some.injEq] at kinds

namespace Draft

/-- What taking in a section does: it has to come behind those already read and to say
something. -/
def Step (d : Draft) (s : RawSection) (d' : Draft) : Prop :=
  ∃ kind said, SectionKind.id kind = s.id ∧ (∀ rank ∈ kind.rank?, d.lastRank < rank) ∧
    Contents.SpelledBy said s.payload kind ∧ d' = d.add kind said

/-- What taking in a row of sections does. -/
inductive Run : Draft → List RawSection → Draft → Prop
  | nil {d : Draft} : Run d [] d
  | cons {d d₁ d₂ : Draft} {s : RawSection} {rest : List RawSection} :
      Step d s d₁ → Run d₁ rest d₂ → Run d (s :: rest) d₂

/-! ## The reader of sections makes the runs -/

theorem accept_eq_ok_iff {d : Draft} {f : Frame} {kind : SectionKind} :
    d.accept f = .ok kind ↔ kind.id = f.id ∧ ∀ rank ∈ kind.rank?, d.lastRank < rank := by
  unfold accept
  split
  · next unknown =>
    constructor
    · intro h
      cases h
    · intro given
      obtain ⟨same, _⟩ := given
      rw [← same, SectionKind.ofId?_id] at unknown
      exact absurd unknown (by simp)
  · next known hk =>
    have same : known.id = f.id := SectionKind.id_of_ofId? hk
    rw [Outcome.check_bind_eq_ok_iff, Outcome.require_eq_ok_iff]
    constructor
    · intro given
      obtain ⟨order, hp⟩ := given
      cases hp
      exact ⟨same, order⟩
    · intro given
      obtain ⟨same', order⟩ := given
      rw [← same', SectionKind.ofId?_id, Option.some.injEq] at hk
      subst hk
      exact ⟨order, rfl⟩

theorem step_eq_ok_iff {d d' : Draft} {f : Frame} :
    d.step f = .ok d' ↔ Step d ⟨f.id, f.payload.window⟩ d' := by
  unfold step Step
  simp only [Outcome.bind_eq_ok_iff, accept_eq_ok_iff, Frame.contents_eq_ok_iff]
  constructor
  · intro h
    obtain ⟨kind, ⟨id, order⟩, said, spelled, same⟩ := h
    cases same
    exact ⟨kind, said, id, order, spelled, rfl⟩
  · intro h
    obtain ⟨kind, said, id, order, spelled, rfl⟩ := h
    exact ⟨kind, ⟨id, order⟩, said, spelled, rfl⟩

theorem sections_of_end {d : Draft} {c : Cursor} (h : c.window = []) :
    d.sections c = .ok d := by
  rw [sections, if_pos]
  simp [Cursor.isAtEnd, h]

/-- Before the end, one section is cut off and taken in, and then the rest is read. -/
theorem sections_eq_ok_iff_step {d d' : Draft} {c : Cursor} (h : c.window ≠ []) :
    d.sections c = .ok d' ↔ ∃ f rest d₁, Reader.frame c = .ok (f, rest) ∧ d.step f = .ok d₁ ∧
      d₁.sections rest = .ok d' := by
  have more : ¬ c.isAtEnd := by simpa [Cursor.isAtEnd] using h
  rw [sections, if_neg more]
  constructor
  · intro run
    split at run
    · cases run
    · next f rest hf =>
      split at run
      · cases run
      · next d₁ hs => exact ⟨f, rest, d₁, hf, hs, run⟩
  · intro given
    obtain ⟨f, rest, d₁, hf, hs, run⟩ := given
    split
    · next hf' =>
      rw [hf] at hf'
      cases hf'
    · next hf' =>
      rw [hf] at hf'
      cases hf'
      rw [hs]
      exact run

/-- Before the end, reading sections is a sequence of a frame, a step and the same again. -/
theorem sections_eq_bind {d : Draft} {c : Cursor} (h : c.window ≠ []) :
    d.sections c = Reader.frame c >>= fun p => d.step p.1 >>= fun d₁ => d₁.sections p.2 := by
  have more : ¬ c.isAtEnd := by simpa [Cursor.isAtEnd] using h
  rw [sections, if_neg more]
  split
  · next hf =>
    rw [hf]
    rfl
  · next f rest hf =>
    rw [hf]
    change _ = d.step f >>= fun d₁ => d₁.sections rest
    split
    · next hs =>
      rw [hs]
      rfl
    · next hs =>
      rw [hs]
      rfl

/-- Nothing spells no sections, for each has an id. -/
theorem items_nil_iff {all : List RawSection} :
    Spelling.Items RawSection.SpelledBy all [] ↔ all = [] := by
  constructor
  · intro spelled
    generalize none : ([] : Bytes) = bytes at spelled
    cases spelled with
    | nil => rfl
    | cons first _ =>
      obtain ⟨size, _, rfl⟩ := first
      exact absurd none (by simp)
  · intro h
    subst h
    exact .nil

/-- The first section of a window is the frame that is cut off it. -/
theorem items_cons_iff {s : RawSection} {all : List RawSection} {c : Cursor} :
    Spelling.Items RawSection.SpelledBy (s :: all) c.window ↔
      ∃ f rest, Reader.frame c = .ok (f, rest) ∧ s = ⟨f.id, f.payload.window⟩ ∧
        Spelling.Items RawSection.SpelledBy all rest.window := by
  constructor
  · intro spelled
    generalize hw : c.window = bytes at spelled
    cases spelled with
    | @cons _ _ _ back first spelled =>
      obtain ⟨size, hsize, rfl⟩ := first
      let payload : Cursor := ⟨c.offset + (1 + size.length), s.payload⟩
      have hf : Reader.frame c = .ok (⟨c.offset, s.id, payload⟩,
          ⟨payload.offset + s.payload.length, back⟩) :=
        Reader.frame_eq_ok_iff.2 ⟨size, hsize, by simpa using hw, rfl, rfl, rfl⟩
      exact ⟨_, _, hf, rfl, spelled⟩
  · intro h
    obtain ⟨f, rest, hf, rfl, spelled⟩ := h
    obtain ⟨size, hsize, hw, _⟩ := Reader.frame_eq_ok_iff.1 hf
    rw [hw, ← List.append_assoc, ← List.cons_append]
    exact .cons ⟨size, hsize, rfl⟩ spelled

/-- The first section of a window is taken in, and then the rest is read. -/
theorem sections_cons {s : RawSection} {size : Bytes}
    (spelled : Leb128.SpelledBy 32 s.payload.length size) (d : Draft) (offset : Nat)
    (back : Bytes) :
    d.sections ⟨offset, s.id :: (size ++ (s.payload ++ back))⟩ =
      d.step ⟨offset, s.id, ⟨offset + (1 + size.length), s.payload⟩⟩ >>= fun d₁ =>
        d₁.sections ⟨offset + (1 + size.length) + s.payload.length, back⟩ := by
  have hf : Reader.frame ⟨offset, s.id :: (size ++ (s.payload ++ back))⟩ =
      .ok (⟨offset, s.id, ⟨offset + (1 + size.length), s.payload⟩⟩,
        ⟨offset + (1 + size.length) + s.payload.length, back⟩) :=
    Reader.frame_eq_ok_iff.2 ⟨size, spelled, rfl, rfl, rfl, rfl⟩
  rw [sections_eq_bind (List.cons_ne_nil _ _), hf]
  rfl

/-- What stands behind a row of sections is read when the row has been taken in. -/
theorem sections_append {all : List RawSection} {front : Bytes}
    (spelled : Spelling.Items RawSection.SpelledBy all front) (d : Draft) (offset : Nat)
    (back : Bytes) :
    d.sections ⟨offset, front ++ back⟩ = d.sections ⟨offset, front⟩ >>= fun d₁ =>
      d₁.sections ⟨offset + front.length, back⟩ := by
  induction spelled generalizing d offset with
  | nil =>
    rw [sections_of_end (c := ⟨offset, []⟩) rfl]
    rfl
  | @cons s _ _ front first _ ih =>
    obtain ⟨size, hs, rfl⟩ := first
    simp only [List.cons_append, List.append_assoc, List.length_cons, List.length_append]
    rw [sections_cons hs, sections_cons hs]
    cases d.step ⟨offset, s.id, ⟨offset + (1 + size.length), s.payload⟩⟩ with
    | error e => rfl
    | ok d₁ =>
      -- the rest starts behind the section, and what follows it as far behind
      have place : offset + (1 + size.length) + s.payload.length + front.length =
          offset + (size.length + (s.payload.length + front.length) + 1) := by omega
      change d₁.sections _ = d₁.sections _ >>= _
      rw [ih, place]

/-- Reading sections makes a run over sections that the window spells, and every such run. -/
theorem sections_eq_ok_iff {d d' : Draft} {c : Cursor} :
    d.sections c = .ok d' ↔
      ∃ all, Spelling.Items RawSection.SpelledBy all c.window ∧ Run d all d' := by
  -- induction on what is left to read, of which each frame takes some
  generalize size : c.remaining = n
  induction n using Nat.strongRecOn generalizing d c with
  | ind n ih =>
    by_cases done : c.window = []
    · rw [sections_of_end done, done]
      constructor
      · intro h
        cases h
        exact ⟨[], .nil, .nil⟩
      · intro h
        obtain ⟨all, spelled, run⟩ := h
        rw [items_nil_iff] at spelled
        subst spelled
        cases run
        rfl
    · rw [sections_eq_ok_iff_step done]
      constructor
      · intro h
        obtain ⟨f, rest, d₁, hf, hs, run⟩ := h
        have shorter := Reader.Consumes.frame _ _ _ hf
        obtain ⟨all, spelled, run⟩ := (ih rest.remaining (by omega) rfl).1 run
        exact ⟨⟨f.id, f.payload.window⟩ :: all, items_cons_iff.2 ⟨f, rest, hf, rfl, spelled⟩,
          .cons (step_eq_ok_iff.1 hs) run⟩
      · intro h
        obtain ⟨all, spelled, run⟩ := h
        cases run with
        | nil =>
          generalize hw : c.window = bytes at spelled done
          cases spelled
          exact absurd rfl done
        | cons hs run =>
          obtain ⟨f, rest, hf, rfl, others⟩ := items_cons_iff.1 spelled
          have shorter := Reader.Consumes.frame _ _ _ hf
          exact ⟨f, rest, _, hf, step_eq_ok_iff.2 hs, (ih _ (by omega) rfl).2 ⟨_, others, run⟩⟩

/-! ## The order of a run -/

theorem add_lastRank (d : Draft) (kind : SectionKind) (said : Contents) :
    (d.add kind said).lastRank = kind.rank?.getD d.lastRank := by
  cases said <;> rfl

/-- The sections of a run stand in the mandated order, behind those that came before it. -/
theorem Run.placed {d d' : Draft} {all : List RawSection} (run : Run d all d') :
    (RawSection.placed all).Sublist (RawSection.mandated.drop d.lastRank) := by
  induction run with
  | nil => exact List.nil_sublist _
  | @cons d _ _ s rest step _ ih =>
    obtain ⟨kind, said, id, order, _, rfl⟩ := step
    rw [add_lastRank] at ih
    cases hr : kind.rank? with
    | none =>
      have custom : s.id = 0 := by
        cases kind <;> cases hr
        exact id.symm
      rwa [hr, Option.getD_none, ← RawSection.placed_cons_of_eq custom] at ih
    | some rank =>
      -- a ranked section takes its place, and what follows comes behind it
      have proper : s.id ≠ 0 := by
        rw [← id]
        cases kind <;> cases hr <;> decide
      have later : d.lastRank < rank := order rank hr
      rw [hr, Option.getD_some] at ih
      rw [RawSection.placed_cons_of_ne proper, ← id]
      refine List.Sublist.trans ?_ (List.drop_sublist_drop_left _ (Nat.le_sub_one_of_lt later))
      rw [(RawSection.drop_mandated hr).2]
      exact ih.cons_cons kind.id

/-- Sections in the mandated order can be taken in if each of them says something. -/
theorem exists_run {all : List RawSection} {d : Draft}
    (order : (RawSection.placed all).Sublist (RawSection.mandated.drop d.lastRank))
    (told : ∀ s ∈ all, ∀ kind, SectionKind.id kind = s.id →
      ∃ said, Contents.SpelledBy said s.payload kind) :
    ∃ d', Run d all d' := by
  induction all generalizing d with
  | nil => exact ⟨d, .nil⟩
  | cons s rest ih =>
    have toldRest : ∀ s' ∈ rest, ∀ kind, SectionKind.id kind = s'.id →
        ∃ said, Contents.SpelledBy said s'.payload kind :=
      fun s' hs' => told s' (List.mem_cons_of_mem _ hs')
    by_cases custom : s.id = 0
    · rw [RawSection.placed_cons_of_eq custom] at order
      obtain ⟨said, spelled⟩ := told s List.mem_cons_self .custom custom.symm
      have step : Step d s (d.add .custom said) :=
        ⟨.custom, said, custom.symm, fun _ none => absurd none (by simp [SectionKind.rank?]),
          spelled, rfl⟩
      obtain ⟨d', run⟩ := ih (d := d.add .custom said) (by rwa [add_lastRank]) toldRest
      exact ⟨d', .cons step run⟩
    · rw [RawSection.placed_cons_of_ne custom] at order
      obtain ⟨kind, rank, id, hr, later, order⟩ := RawSection.exists_kind_of_cons_sublist order
      obtain ⟨said, spelled⟩ := told s List.mem_cons_self kind id
      have step : Step d s (d.add kind said) := by
        refine ⟨kind, said, id, ?_, spelled, rfl⟩
        intro other ho
        rw [hr] at ho
        cases ho
        exact later
      obtain ⟨d', run⟩ := ih (d := d.add kind said) (by rwa [add_lastRank, hr]) toldRest
      exact ⟨d', .cons step run⟩

/-! ## The fields of a run -/

/-- A field of drafts that the sections of one kind fill. -/
structure Field (get : Draft → β) (kind : SectionKind) (S : Spelling β) : Prop where
  /-- The kind has a place, so that it comes at most once. -/
  ranked : kind.rank? ≠ none
  /-- A section of the kind sets the field to what it says. -/
  filled : ∀ (d : Draft) said bytes, Contents.SpelledBy said bytes kind →
    S (get (d.add kind said)) bytes
  /-- No other section changes it. -/
  kept : ∀ (d : Draft) other said bytes, other ≠ kind → Contents.SpelledBy said bytes other →
    get (d.add other said) = get d

/-- A run does not come back to a kind with a place that has been passed. -/
theorem Run.id_ne {kind : SectionKind} {rank : Nat} {d d' : Draft} {all : List RawSection}
    (run : Run d all d') (hr : kind.rank? = some rank) (passed : d.lastRank = rank) :
    ∀ s ∈ all, s.id ≠ kind.id := by
  intro s hs again
  have placed := run.placed
  rw [passed] at placed
  refine RawSection.not_mem_drop_mandated hr (placed.subset ?_)
  refine List.mem_filter.2 ⟨List.mem_map.2 ⟨s, hs, again⟩, ?_⟩
  cases kind <;> first | rfl | cases hr

/-- After a run a field holds what the sections of its kind say. -/
theorem Run.tells {get : Draft → β} {kind : SectionKind} {S : Spelling β} {d d' : Draft}
    {all : List RawSection} (field : Field get kind S) (run : Run d all d') :
    RawSection.Says all kind.id S (get d) (get d') := by
  induction run with
  | nil => exact ⟨fun _ none => absurd none (List.not_mem_nil), fun _ => rfl⟩
  | @cons d d₁ d₂ s rest step run ih =>
    obtain ⟨other, said, id, order, spelled, rfl⟩ := step
    by_cases same : other = kind
    · subst same
      -- the field is set here, and no later section of this kind sets it again
      obtain ⟨rank, hr⟩ := Option.ne_none_iff_exists'.1 field.ranked
      have last := run.id_ne hr (by rw [add_lastRank, hr, Option.getD_some])
      have final := ih.missing last
      refine ⟨?_, fun none => absurd id.symm (none s List.mem_cons_self)⟩
      intro s' hs' hid
      rcases List.mem_cons.1 hs' with rfl | hs'
      · rw [final]
        exact field.filled d said _ spelled
      · exact absurd hid (last s' hs')
    · have different : s.id ≠ kind.id := fun h => same (SectionKind.id_injective (id.trans h))
      rw [field.kept d other said _ same spelled] at ih
      refine ⟨?_, fun none => ih.missing fun s' hs' => none s' (List.mem_cons_of_mem _ hs')⟩
      intro s' hs' hid
      rcases List.mem_cons.1 hs' with rfl | hs'
      · exact absurd hid different
      · exact ih.present s' hs' hid

end Draft

/-- The kind of the sections that say this; what is passed over may be of several. -/
def Contents.kind? : Contents → Option SectionKind
  | .custom _ => some .custom
  | .signatures _ => some .signatures
  | .imports _ => some .imports
  | .functions _ => some .functions
  | .tables _ => some .tables
  | .memories _ => some .memories
  | .globals _ => some .globals
  | .exports _ => some .exports
  | .code _ => some .code
  | .skipped => none

theorem Contents.kind?_of_spelledBy {said : Contents} {bytes : Bytes} {kind other : SectionKind}
    (spelled : said.SpelledBy bytes kind) (h : said.kind? = some other) : other = kind := by
  cases kind with
  | custom =>
    obtain ⟨_, _, _, _, _, rfl⟩ := spelled
    cases h
    rfl
  | start | elements | data | dataCount =>
    cases spelled
    cases h
  | _ =>
    obtain ⟨_, _, rfl⟩ := spelled
    cases h
    rfl

namespace Draft

/-- For a field to be kept, it is enough to look at what sections say. -/
theorem Field.of_contents {get : Draft → β} {kind : SectionKind} {S : Spelling β}
    (ranked : kind.rank? ≠ none)
    (filled : ∀ (d : Draft) said bytes, Contents.SpelledBy said bytes kind →
      S (get (d.add kind said)) bytes)
    (kept : ∀ (d : Draft) other (said : Contents), said.kind? ≠ some kind →
      get (d.add other said) = get d) : Field get kind S where
  ranked := ranked
  filled := filled
  kept d other said _ different spelled :=
    kept d other said fun same => different (Contents.kind?_of_spelledBy spelled same).symm

theorem signatures_field : Field (fun d => d.interface.signatures) .signatures
    (Spelling.Vector Signature.SpelledBy) := by
  refine .of_contents (by decide) ?_ ?_
  · intro d said bytes h
    obtain ⟨_, spelled, rfl⟩ := h
    exact spelled
  · intro d other said different
    cases said <;> first | rfl | exact absurd rfl different

theorem imports_field : Field (fun d => d.interface.imports) .imports
    (Spelling.Vector Import.SpelledBy) := by
  refine .of_contents (by decide) ?_ ?_
  · intro d said bytes h
    obtain ⟨_, spelled, rfl⟩ := h
    exact spelled
  · intro d other said different
    cases said <;> first | rfl | exact absurd rfl different

theorem functions_field : Field (fun d => d.interface.functions) .functions
    (Spelling.Vector Spelling.U32) := by
  refine .of_contents (by decide) ?_ ?_
  · intro d said bytes h
    obtain ⟨_, spelled, rfl⟩ := h
    exact spelled
  · intro d other said different
    cases said <;> first | rfl | exact absurd rfl different

theorem tables_field : Field (fun d => d.interface.tables) .tables
    (Spelling.Vector TableType.SpelledBy) := by
  refine .of_contents (by decide) ?_ ?_
  · intro d said bytes h
    obtain ⟨_, spelled, rfl⟩ := h
    exact spelled
  · intro d other said different
    cases said <;> first | rfl | exact absurd rfl different

theorem memories_field : Field (fun d => d.interface.memories) .memories
    (Spelling.Vector Limits.SpelledBy) := by
  refine .of_contents (by decide) ?_ ?_
  · intro d said bytes h
    obtain ⟨_, spelled, rfl⟩ := h
    exact spelled
  · intro d other said different
    cases said <;> first | rfl | exact absurd rfl different

theorem globals_field : Field (fun d => d.interface.globalCount.toNat) .globals
    Spelling.Leading := by
  refine .of_contents (by decide) ?_ ?_
  · intro d said bytes h
    obtain ⟨_, spelled, rfl⟩ := h
    exact spelled
  · intro d other said different
    cases said <;> first | rfl | exact absurd rfl different

theorem exports_field : Field (fun d => d.interface.exports) .exports
    (Spelling.Vector Export.SpelledBy) := by
  refine .of_contents (by decide) ?_ ?_
  · intro d said bytes h
    obtain ⟨_, spelled, rfl⟩ := h
    exact spelled
  · intro d other said different
    cases said <;> first | rfl | exact absurd rfl different

theorem bodies_field : Field (fun d => d.bodies) .code Spelling.Leading := by
  refine .of_contents (by decide) ?_ ?_
  · intro d said bytes h
    obtain ⟨_, spelled, rfl⟩ := h
    exact spelled
  · intro d other said different
    cases said <;> first | rfl | exact absurd rfl different

end Draft

end WasmBindings
