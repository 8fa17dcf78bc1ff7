import WasmBindings.Binary.Decode
import WasmBindings.Proofs.Binary.Entry
import WasmBindings.Proofs.Outcome

/-!
# Sections as spellings

A section on its own is an id and a payload. `RawSection.SpelledBy` says which bytes frame it, and
`Contents.SpelledBy` what a payload says, by the kind of the section. Both are joined to the code
here: cutting a frame off a window finds exactly the spellings of a section, and reading a payload
succeeds exactly if the whole of it spells something.
-/

namespace WasmBindings

/-- A section as it stands in a binary. -/
structure RawSection where
  id : UInt8
  payload : Bytes
  deriving DecidableEq, Repr

/-- A section: its id, the size of the payload, the payload. -/
def RawSection.SpelledBy (s : RawSection) (bytes : Bytes) : Prop :=
  ∃ size, Leb128.SpelledBy 32 s.payload.length size ∧ bytes = s.id :: (size ++ s.payload)

/-- A number with anything behind it. -/
def Spelling.Leading (n : Nat) (bytes : Bytes) : Prop :=
  ∃ count rest, Leb128.SpelledBy 32 n count ∧ bytes = count ++ rest

/-- What the payload of a section says, by the kind of the section. -/
def Contents.SpelledBy (said : Contents) (bytes : Bytes) : SectionKind → Prop
  | .custom => ∃ text name rest, Spelling.Name text name ∧ bytes = name ++ rest ∧
      said = .custom text
  | .signatures => ∃ items, Spelling.Vector Signature.SpelledBy items bytes ∧
      said = .signatures items
  | .imports => ∃ items, Spelling.Vector Import.SpelledBy items bytes ∧ said = .imports items
  | .functions => ∃ items, Spelling.Vector Spelling.U32 items bytes ∧ said = .functions items
  | .tables => ∃ items, Spelling.Vector TableType.SpelledBy items bytes ∧ said = .tables items
  | .memories => ∃ items, Spelling.Vector Limits.SpelledBy items bytes ∧ said = .memories items
  | .globals => ∃ n : UInt32, Spelling.Leading n.toNat bytes ∧ said = .globals n
  | .exports => ∃ items, Spelling.Vector Export.SpelledBy items bytes ∧ said = .exports items
  | .code => ∃ n : UInt32, Spelling.Leading n.toNat bytes ∧ said = .code n
  | .start | .elements | .data | .dataCount => said = .skipped

namespace Reader

/-! ## Frames -/

theorem offset_eq_ok_iff {c c' : Cursor} {n : Nat} :
    offset c = .ok (n, c') ↔ n = c.offset ∧ c' = c := by
  constructor
  · intro run
    cases run
    exact ⟨rfl, rfl⟩
  · intro h
    obtain ⟨rfl, rfl⟩ := h
    rfl

theorem window_eq_ok_iff {c c' part : Cursor} {count : Nat} :
    window count c = .ok (part, c') ↔ part.window.length = count ∧
      c.window = part.window ++ c'.window ∧ part.offset = c.offset ∧
      c'.offset = c.offset + count := by
  obtain ⟨offset, bytes⟩ := c
  obtain ⟨partOffset, partBytes⟩ := part
  obtain ⟨offset', bytes'⟩ := c'
  unfold window Cursor.remaining Cursor.bounded Cursor.advance
  constructor
  · intro run
    split at run
    · next enough =>
      cases run
      exact ⟨List.length_take_of_le enough, (List.take_append_drop _ _).symm, rfl, rfl⟩
    · cases run
  · intro h
    obtain ⟨rfl, hw, ho, ho'⟩ := h
    simp_all

/-- Cutting off a frame finds the spelling of a section and nothing else. -/
theorem frame_eq_ok_iff {c c' : Cursor} {f : Frame} :
    frame c = .ok (f, c') ↔ ∃ size, Leb128.SpelledBy 32 f.payload.window.length size ∧
      c.window = f.id :: (size ++ (f.payload.window ++ c'.window)) ∧ f.offset = c.offset ∧
      f.payload.offset = c.offset + (1 + size.length) ∧
      c'.offset = f.payload.offset + f.payload.window.length := by
  obtain ⟨start, id, payload⟩ := f
  unfold frame
  constructor
  · intro run
    -- the offset, the id, the size and the payload, one read after the other
    obtain ⟨_, _, first, run⟩ := bind_eq_ok_iff.1 run
    obtain ⟨rfl, rfl⟩ := offset_eq_ok_iff.1 first
    obtain ⟨_, c₁, second, run⟩ := bind_eq_ok_iff.1 run
    obtain ⟨_, rfl, hw₁, ho₁⟩ := (Accepts.byte _ _ _).1 second
    obtain ⟨n, c₂, third, run⟩ := bind_eq_ok_iff.1 run
    obtain ⟨size, spelled, hw₂, ho₂⟩ := (Accepts.u32 _ _ _).1 third
    obtain ⟨_, c₃, fourth, run⟩ := bind_eq_ok_iff.1 run
    obtain ⟨length, hw₃, ho₃, ho₄⟩ := window_eq_ok_iff.1 fourth
    obtain ⟨same, rfl⟩ := pure_eq_ok_iff.1 run
    cases same
    refine ⟨size, by rwa [length], ?_, rfl, ?_, ?_⟩
    · rw [hw₁, hw₂, hw₃]
      rfl
    · rw [ho₃, ho₂, ho₁, List.length_singleton, Nat.add_assoc]
    · rw [ho₄, ho₃, length]
  · intro h
    obtain ⟨size, spelled, hw, rfl, ho, ho'⟩ := h
    -- the size was spelled in 32 bits, so it is read back as it is
    have length : (UInt32.ofNat payload.window.length).toNat = payload.window.length :=
      UInt32.toNat_ofNat_of_lt' spelled.fits
    refine bind_eq_ok_iff.2 ⟨_, c, rfl, bind_eq_ok_iff.2 ⟨id, ⟨c.offset + 1, _⟩,
      (Accepts.byte _ _ _).2 ⟨[id], rfl, hw, rfl⟩, bind_eq_ok_iff.2
        ⟨UInt32.ofNat payload.window.length, ⟨payload.offset, _⟩,
          (Accepts.u32 _ _ _).2 ⟨size, ?_, rfl, ?_⟩, bind_eq_ok_iff.2 ⟨payload, c',
            window_eq_ok_iff.2 ⟨length.symm, rfl, rfl, ?_⟩, rfl⟩⟩⟩⟩
    · rwa [Spelling.U32, length]
    · rw [ho, Nat.add_assoc]
    · rw [ho', length]

/-! ## Payloads -/

/-- Passing over all that is left uses a window up, whatever it holds. -/
theorem skipRest_used_up_iff {c : Cursor} {a b : α} :
    (∃ c', (skipRest >>= fun _ => pure a : Reader α) c = .ok (b, c') ∧ c'.window = []) ↔
      b = a := by
  constructor
  · intro h
    obtain ⟨c', run, _⟩ := h
    cases run
    rfl
  · intro h
    obtain rfl := h
    refine ⟨c.advance c.remaining, rfl, ?_⟩
    simp [Cursor.advance, Cursor.remaining]

/-- Behind what a reader accepts, anything may be passed over. -/
theorem Accepts.leading_used_up_iff {r : Reader α} {S : Spelling α} (h : Accepts r S)
    {f : α → β} {c : Cursor} {b : β} :
    (∃ c', (r >>= fun a => skipRest >>= fun _ => pure (f a)) c = .ok (b, c') ∧ c'.window = []) ↔
      ∃ a front back, S a front ∧ c.window = front ++ back ∧ b = f a := by
  constructor
  · intro given
    obtain ⟨c', run, done⟩ := given
    obtain ⟨a, c₁, first, run⟩ := bind_eq_ok_iff.1 run
    obtain ⟨front, ha, hw, _⟩ := (h _ _ _).1 first
    -- whatever is left in `c₁` is what was passed over
    exact ⟨a, front, c₁.window, ha, hw, skipRest_used_up_iff.1 ⟨c', run, done⟩⟩
  · intro given
    obtain ⟨a, front, back, ha, hw, same⟩ := given
    have first : r c = .ok (a, ⟨c.offset + front.length, back⟩) :=
      (h _ _ _).2 ⟨front, ha, hw, rfl⟩
    obtain ⟨c', run, done⟩ := skipRest_used_up_iff (c := ⟨c.offset + front.length, back⟩) |>.2 same
    exact ⟨c', bind_eq_ok_iff.2 ⟨a, _, first, run⟩, done⟩

/-- Reading a leading count is reading a number and passing over the rest. -/
theorem countOnly_bind (f : UInt32 → α) : (countOnly >>= fun n => pure (f n)) =
    (u32 >>= fun n => skipRest >>= fun _ => pure (f n)) := by
  unfold countOnly
  simp only [bind_assoc, pure_bind]

/-- A leading count accepts whatever it leads. -/
theorem countOnly_used_up_iff {f : UInt32 → α} {c : Cursor} {a : α} :
    (∃ c', (countOnly >>= fun n => pure (f n)) c = .ok (a, c') ∧ c'.window = []) ↔
      ∃ n : UInt32, Spelling.Leading n.toNat c.window ∧ a = f n := by
  rw [countOnly_bind, Accepts.u32.leading_used_up_iff]
  constructor
  · intro h
    obtain ⟨n, front, back, spelled, hw, rfl⟩ := h
    exact ⟨n, ⟨front, back, spelled, hw⟩, rfl⟩
  · intro h
    obtain ⟨n, ⟨front, back, spelled, hw⟩, rfl⟩ := h
    exact ⟨n, front, back, spelled, hw, rfl⟩

/-- The payload of a section is read to its end exactly if it says something. -/
theorem contents_used_up_iff {kind : SectionKind} {c : Cursor} {said : Contents} :
    (∃ c', contents kind c = .ok (said, c') ∧ c'.window = []) ↔
      said.SpelledBy c.window kind := by
  cases kind with
  | custom => exact Accepts.name.leading_used_up_iff
  | signatures => exact (Accepts.signature.vector.map Contents.signatures).used_up_iff
  | imports => exact (Accepts.importEntry.vector.map Contents.imports).used_up_iff
  | functions => exact (Accepts.u32.vector.map Contents.functions).used_up_iff
  | tables => exact (Accepts.table.vector.map Contents.tables).used_up_iff
  | memories => exact (Accepts.limits.vector.map Contents.memories).used_up_iff
  | exports => exact (Accepts.exportEntry.vector.map Contents.exports).used_up_iff
  | globals => exact countOnly_used_up_iff
  | code => exact countOnly_used_up_iff
  | start | elements | data | dataCount => exact skipRest_used_up_iff

end Reader

/-- A frame has contents if its payload says them and nothing more. -/
theorem Frame.contents_eq_ok_iff {f : Frame} {kind : SectionKind} {said : Contents} :
    f.contents kind = .ok said ↔ said.SpelledBy f.payload.window kind := by
  rw [← Reader.contents_used_up_iff]
  unfold Frame.contents
  rw [Outcome.bind_eq_ok_iff]
  constructor
  · intro h
    obtain ⟨⟨_, rest⟩, run, finish⟩ := h
    obtain ⟨done, same⟩ := Outcome.check_bind_eq_ok_iff.1 finish
    cases same
    exact ⟨rest, run, List.length_eq_zero_iff.1 (Outcome.require_eq_ok_iff.1 done)⟩
  · intro h
    obtain ⟨rest, run, done⟩ := h
    refine ⟨(said, rest), run, Outcome.check_bind_eq_ok_iff.2 ⟨?_, rfl⟩⟩
    exact Outcome.require_eq_ok_iff.2 (List.length_eq_zero_iff.2 done)

end WasmBindings
