import WasmBindings.Proofs.Binary.Simulation

/-!
# Reading a module by positions

The simulation of single reads is carried on here to entries, payloads and frames, and from there to
a whole module. What a frame says about the size of its payload has to be right for the error of a
payload that is not used up, where the bytes that are left are taken off that size (`Frame.Sound`).

`Checked.decode` reads a module by positions. It gives what `Module.decode` gives for every binary
(`decode_eq`), so no operation is ever used outside of its domain.
-/

namespace WasmBindings.Checked

namespace Simulates

variable {α β : Type} {R : α → β → Prop}

/-! ## Names and vectors -/

/-- Asking how much is left changes nothing. -/
theorem afterRemaining {x : Reader α} {r : WasmBindings.Reader β} (h : Simulates R x r) :
    Simulates R (remaining >>= fun _ => x) r := by
  intro c within
  change (∃ a b c', _ ∧ _ ∧ (remaining c >>= fun p => x p.2) = _ ∧ _) ∨
    ∃ e, (remaining c >>= fun p => x p.2) = _ ∧ _
  rw [remaining_run within]
  exact h c within

protected theorem skip (count : Nat) : Simulates Eq (skip count) (Reader.skip count) :=
  (Simulates.bytes count).map fun _ => ()

protected theorem word : Simulates Eq word Reader.word := by
  refine (Simulates.bytes_length 4).bind fun raw _ given => ?_
  obtain ⟨rfl, length⟩ := given
  have front : slice raw 0 4 = .ok raw := by
    unfold slice
    rw [if_pos ⟨Nat.zero_le 4, Nat.le_of_eq length.symm⟩, ← length, List.take_length]
    rfl
  rw [front]
  exact Simulates.pure rfl

protected theorem text (start : Nat) (raw : Bytes) :
    Simulates Eq (text start raw) (Reader.text start raw) := by
  unfold text Reader.text
  cases Utf8.decode? raw with
  | some text => exact Simulates.pure rfl
  | none => exact Simulates.fault (.malformedUtf8 start)

protected theorem name : Simulates Eq name Reader.name :=
  Simulates.u32.next fun size => Simulates.offset.next fun start =>
    (Simulates.bytes size.toNat).next fun raw => Simulates.text start raw

protected theorem times {x : Reader α} {r : WasmBindings.Reader α} (h : Simulates Eq x r)
    (count : Nat) : Simulates Eq (times x count) (Reader.times r count) := by
  induction count with
  | zero => exact Simulates.pure rfl
  | succ count ih => exact h.next fun first => ih.map fun rest => first :: rest

protected theorem vector {x : Reader α} {r : WasmBindings.Reader α} (h : Simulates Eq x r) :
    Simulates Eq (vector x) (Reader.vector r) :=
  Simulates.u32.next fun count => (h.times count.toNat).afterRemaining

/-! ## Entries -/

protected theorem valueType : Simulates Eq valueType Reader.valueType :=
  Simulates.byte.map ValueType.ofTag

protected theorem signature : Simulates Eq signature Reader.signature :=
  Simulates.offset.next fun start => Simulates.byte.next fun form =>
    (Simulates.fault (.badTypeForm form start)).ite
      (Simulates.valueType.vector.next fun parameters =>
        Simulates.valueType.vector.map fun results => Signature.mk parameters results)

protected theorem bound (wide : Bool) : Simulates Eq (bound wide) (Reader.bound wide) :=
  Simulates.u64.ite (Simulates.u32.map UInt32.toUInt64)

protected theorem limits : Simulates Eq limits Reader.limits :=
  Simulates.offset.next fun start => Simulates.byte.next fun flags =>
    (Simulates.fault (.badLimits flags start)).ite
      ((Simulates.bound _).next fun min => (Simulates.pure rfl).ite
        ((Simulates.bound _).map fun max => Limits.mk min (some max)))

protected theorem table : Simulates Eq table Reader.table :=
  Simulates.byte.next fun element => Simulates.limits.map (TableType.mk element)

protected theorem globalType : Simulates Eq globalType Reader.globalType :=
  Simulates.valueType.next fun _ => Simulates.offset.next fun start =>
    Simulates.byte.next fun tag => (Simulates.pure rfl).ite
      ((Simulates.pure rfl).ite (Simulates.fault (.badKind .mutability tag start)))

protected theorem importKind : Simulates Eq importKind Reader.importKind :=
  Simulates.offset.next fun start => Simulates.byte.next fun tag =>
    (Simulates.u32.map ImportKind.function).ite ((Simulates.table.map ImportKind.table).ite
      ((Simulates.limits.map ImportKind.memory).ite
        ((Simulates.globalType.map ImportKind.global).ite
          (Simulates.fault (.badKind .importKind tag start)))))

protected theorem importEntry : Simulates Eq importEntry Reader.importEntry :=
  Simulates.name.next fun moduleName => Simulates.name.next fun name =>
    Simulates.importKind.map (Import.mk moduleName name)

protected theorem exportOf (name : String) (start : Nat) (tag : UInt8) (index : UInt32) :
    Simulates Eq (exportOf name start tag index) (Reader.exportOf name start tag index) := by
  unfold exportOf Reader.exportOf
  cases Reader.exportSpace? tag with
  | some space => exact Simulates.pure rfl
  | none => exact Simulates.fault (.badKind .exportKind tag start)

protected theorem exportEntry : Simulates Eq exportEntry Reader.exportEntry :=
  Simulates.name.next fun name => Simulates.offset.next fun start => Simulates.byte.next fun tag =>
    Simulates.u32.next fun index => Simulates.exportOf name start tag index

/-! ## Payloads -/

protected theorem countOnly : Simulates Eq countOnly Reader.countOnly :=
  Simulates.u32.next fun count => Simulates.skipRest.map fun _ => count

protected theorem contents (kind : SectionKind) :
    Simulates Eq (contents kind) (Reader.contents kind) := by
  cases kind with
  | custom =>
    exact Simulates.name.next fun name => Simulates.skipRest.map fun _ => Contents.custom name
  | signatures => exact Simulates.signature.vector.map Contents.signatures
  | imports => exact Simulates.importEntry.vector.map Contents.imports
  | functions => exact Simulates.u32.vector.map Contents.functions
  | tables => exact Simulates.table.vector.map Contents.tables
  | memories => exact Simulates.limits.vector.map Contents.memories
  | globals => exact Simulates.countOnly.map Contents.globals
  | exports => exact Simulates.exportEntry.vector.map Contents.exports
  | code => exact Simulates.countOnly.map Contents.code
  | start | elements | data | dataCount => exact Simulates.skipRest.map fun _ => Contents.skipped

protected theorem header : Simulates Eq header Reader.header :=
  (Simulates.bytes 4).next fun magic => (Simulates.fault (.badMagic magic)).ite
    (Simulates.word.next fun version => (Simulates.fault (.unknownVersion version)).ite
      (Simulates.pure rfl))

end Simulates

/-! ## Sections -/

namespace Frame

/-- The same section with the window of its payload. -/
def view (f : Frame) : WasmBindings.Frame := ⟨f.offset, f.id, f.payload.view⟩

/-- The payload is in bounds and has the size that was announced. -/
structure Sound (f : Frame) : Prop where
  inBounds : f.payload.InBounds
  size : f.payload.stop - f.payload.pos = f.size

theorem Sound.size_view {f : Frame} (h : f.Sound) : f.view.size = f.size :=
  h.inBounds.remaining_view.trans h.size

end Frame

/-- A frame that is cut out is sound. -/
protected theorem Simulates.frame :
    Simulates (fun f g => f.Sound ∧ f.view = g) frame Reader.frame :=
  Simulates.offset.next fun start => Simulates.byte.next fun id => Simulates.u32.next fun size =>
    (Simulates.split size.toNat).bind fun _ _ given =>
      Simulates.pure ⟨⟨given.1, given.2.2⟩, congrArg (WasmBindings.Frame.mk start id) given.2.1⟩

/-- What is left of the payload is no more than its size, so the two can be subtracted. -/
theorem Frame.Sound.contents_eq {f : Frame} (h : f.Sound) (kind : SectionKind) :
    f.contents kind = (f.view.contents kind).mapError .fault := by
  change (Checked.contents kind f.payload >>= _) =
    (Reader.contents kind f.payload.view >>= _).mapError _
  rcases Simulates.contents kind f.payload h.inBounds with
    ⟨said, _, rest, on, rfl, hx, hr⟩ | ⟨e, hx, hr⟩
  · have within := h.inBounds.of_reaches on
    rw [hx, hr]
    change (if rest.isAtEnd then _ else _) = (require (rest.view.remaining = 0) _ >>= _).mapError _
    by_cases done : rest.view.remaining = 0
    · rw [if_pos (within.isAtEnd_iff.2 done), require, if_pos done]
      rfl
    · have less : rest.view.remaining ≤ f.size := by
        rw [within.remaining_view, on.stop, ← h.size]
        exact Nat.sub_le_sub_left on.forward _
      rw [if_neg (mt within.isAtEnd_iff.1 done), require, if_neg done, within.remaining_eq,
        h.size_view]
      change (difference f.size rest.view.remaining >>= _) = _
      rw [difference, if_pos less]
      rfl
  · rw [hx, hr]
    rfl

/-- Takes in one section. -/
def step (d : Draft) (f : Frame) : Except Halt Draft := do
  let kind ← (d.accept f.view).mapError .fault
  let said ← f.contents kind
  return d.add kind said

theorem step_eq (d : Draft) {f : Frame} (h : f.Sound) :
    step d f = (d.step f.view).mapError .fault := by
  unfold step Draft.step
  cases d.accept f.view with
  | error e => rfl
  | ok kind =>
    change (f.contents kind >>= _) = (f.view.contents kind >>= _).mapError _
    rw [h.contents_eq]
    cases f.view.contents kind <;> rfl

/-- Cutting out a frame leaves less. -/
theorem frame_shorter {c rest : Cursor} {f : Frame} (within : c.InBounds)
    (run : frame c = .ok (f, rest)) : rest.stop - rest.pos < c.stop - c.pos := by
  rcases Simulates.frame c within with ⟨_, _, c', on, _, hx, hr⟩ | ⟨e, hx, _⟩
  · cases hx.symm.trans run
    have shorter := Reader.Consumes.frame _ _ _ hr
    rw [within.remaining_view, (within.of_reaches on).remaining_view] at shorter
    omega
  · cases hx.symm.trans run

/-- Takes in all sections up to the end of the cursor, which must be in bounds each time. -/
def sections (d : Draft) (c : Cursor) : Except Halt Draft :=
  if _within : c.InBounds then
    if c.isAtEnd then .ok d
    else
      match _run : frame c with
      | .error e => .error e
      | .ok (f, rest) =>
        match step d f with
        | .error e => .error e
        | .ok d => sections d rest
  else .error .panic
termination_by c.stop - c.pos
decreasing_by exact frame_shorter _within _run

theorem sections_eq (d : Draft) {c : Cursor} (within : c.InBounds) :
    sections d c = (d.sections c.view).mapError .fault := by
  -- induction on what is left to read, of which each frame takes some
  generalize size : c.stop - c.pos = n
  induction n using Nat.strongRecOn generalizing d c with
  | ind n ih =>
    unfold sections
    rw [dif_pos within]
    by_cases done : c.view.window = []
    · have none : c.view.remaining = 0 := List.length_eq_zero_iff.2 done
      rw [if_pos (within.isAtEnd_iff.2 none), Draft.sections_of_end done]
      rfl
    · have more : ¬ c.isAtEnd = true := fun ended =>
        done (List.length_eq_zero_iff.1 (within.isAtEnd_iff.1 ended))
      rw [if_neg more, Draft.sections_eq_bind done]
      rcases Simulates.frame c within with ⟨f, _, rest, on, ⟨sound, rfl⟩, hx, hr⟩ | ⟨e, hx, hr⟩
      · have shorter := frame_shorter within hx
        rw [hx, hr]
        change (match step d f with | .error e => _ | .ok d => _) =
          (d.step f.view >>= fun d₁ => d₁.sections rest.view).mapError _
        rw [step_eq d sound]
        cases d.step f.view with
        | error e => rfl
        | ok d₁ => exact ih _ (by omega) d₁ (within.of_reaches on) rfl
      · rw [hx, hr]
        rfl

/-- Reads the interface of a module from its binary. -/
def decode (binary : Bytes) : Except Halt Module := do
  let ((), rest) ← header (.whole binary)
  let draft ← sections {} rest
  draft.finish.mapError .fault

/-- **Reading a module by positions gives what reading it by windows gives**, and never an operation
outside of its domain. -/
theorem decode_eq (binary : Bytes) :
    decode binary = (Module.decode binary).mapError .fault := by
  unfold decode Module.decode
  rw [← Cursor.view_whole]
  change (header (.whole binary) >>= fun p => sections {} p.2 >>= fun d => _) =
    (Reader.header (Cursor.whole binary).view >>= fun p =>
      Draft.sections {} p.2 >>= Draft.finish).mapError _
  have within := Cursor.inBounds_whole binary
  rcases Simulates.header _ within with ⟨_, _, rest, on, _, hx, hr⟩ | ⟨e, hx, hr⟩
  · rw [hx, hr]
    change (sections {} rest >>= _) = (Draft.sections {} rest.view >>= _).mapError _
    rw [sections_eq {} (within.of_reaches on)]
    cases Draft.sections {} rest.view <;> rfl
  · rw [hx, hr]
    rfl

end WasmBindings.Checked
