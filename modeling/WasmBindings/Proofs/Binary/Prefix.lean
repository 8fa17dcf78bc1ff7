import Mathlib
import WasmBindings.Proofs.Binary.Decode
import WasmBindings.Proofs.Module.Violations

/-!
# Binaries cut short and binaries with more behind them

A reader takes its window from the front, so what it makes of a window it also makes of every
longer one, unless it ran into the end (`Reader.Steady`). One lemma for each way to put readers
together carries this from the single byte up to the frame of a section. What stands inside a frame
is read from a window of its own, which is the same however long the binary is.

So there are two ways in which the end of a binary matters. A binary that is cut off anywhere but
behind a section is found to be too short. And of the errors, only those of a read that lacks bytes
and those of indices, which are resolved when all sections are read, can be cured by what comes
behind (`FormatError.Provisional`).
-/

namespace WasmBindings

/-- The same place with more bytes behind the window. -/
def Cursor.extend (c : Cursor) (more : Bytes) : Cursor := ⟨c.offset, c.window ++ more⟩

/-- The outcome of a read that ran into the end of its window. -/
def CutShort (outcome : Except FormatError α) : Prop :=
  ∃ offset needed, outcome = .error (.unexpectedEnd offset needed)

theorem not_cutShort_ok {a : α} : ¬ CutShort (.ok a : Except FormatError α) := by
  intro h
  obtain ⟨_, _, none⟩ := h
  cases none

/-- What follows a read that was cut short is not reached. -/
theorem CutShort.bind {outcome : Except FormatError α} (h : CutShort outcome)
    (next : α → Except FormatError β) : CutShort (outcome >>= next) := by
  obtain ⟨offset, needed, rfl⟩ := h
  exact ⟨offset, needed, rfl⟩

/-! ## Readers -/

namespace Reader

/-- A reader that does on a longer window what it does on a shorter one, unless it ran into the end
of that. -/
def Steady (r : Reader α) : Prop :=
  ∀ c more, CutShort (r c) ∨ r (c.extend more) = (r c).map fun p => (p.1, p.2.extend more)

namespace Steady

variable {r : Reader α}

theorem cutShort_or_of_ok (h : Steady r) {c c' : Cursor} {a : α} {more : Bytes}
    (run : r (c.extend more) = .ok (a, c')) :
    CutShort (r c) ∨ ∃ rest, r c = .ok (a, rest) ∧ c' = rest.extend more := by
  refine (h c more).imp_right fun same => ?_
  rw [same] at run
  cases hr : r c with
  | error e =>
    rw [hr] at run
    cases run
  | ok p =>
    rw [hr] at run
    cases run
    exact ⟨_, rfl, rfl⟩

theorem ok (h : Steady r) {c c' : Cursor} {a : α} (run : r c = .ok (a, c')) (more : Bytes) :
    r (c.extend more) = .ok (a, c'.extend more) := by
  rcases h c more with cut | same
  · rw [run] at cut
    exact absurd cut not_cutShort_ok
  · rw [same, run]
    rfl

theorem error (h : Steady r) {c : Cursor} {e : FormatError} (run : r c = .error e)
    (final : ∀ offset needed, e ≠ .unexpectedEnd offset needed) (more : Bytes) :
    r (c.extend more) = .error e := by
  rcases h c more with cut | same
  · rw [run] at cut
    obtain ⟨offset, needed, same⟩ := cut
    cases same
    exact absurd rfl (final offset needed)
  · rw [same, run]
    rfl

protected theorem pure (a : α) : Steady (pure a) := fun _ _ => .inr rfl

protected theorem throw (e : FormatError) : Steady (throw e : Reader α) := fun _ _ => .inr rfl

/-- If neither part of a sequence runs into the end, both do the same on a longer window. -/
protected theorem bind {f : α → Reader β} (first : Steady r) (second : ∀ a, Steady (f a)) :
    Steady (r >>= f) := by
  intro c more
  change CutShort (r c >>= fun p => f p.1 p.2) ∨ (r (c.extend more) >>= fun p => f p.1 p.2) =
    (r c >>= fun p => f p.1 p.2).map _
  rcases first c more with cut | same
  · exact .inl (cut.bind _)
  · rw [same]
    cases r c with
    | error e => exact .inr rfl
    | ok p => exact second p.1 p.2 more

protected theorem ite {s : Reader α} {p : Prop} [Decidable p] (yes : Steady r) (no : Steady s) :
    Steady (if p then r else s) := by
  split <;> assumption

protected theorem offset : Steady Reader.offset := fun _ _ => .inr rfl

protected theorem byte : Steady Reader.byte := by
  intro c more
  obtain ⟨offset, window⟩ := c
  cases window with
  | nil => exact .inl ⟨_, _, rfl⟩
  | cons b rest => exact .inr rfl

/-- A part of known size is the same part of a longer window. -/
theorem sized (part : Cursor → β) {count : Nat} {r : Reader β}
    (run : ∀ c, r c = if count ≤ c.remaining then .ok (part c, c.advance count)
      else .error (c.tooShort count))
    (same : ∀ (c : Cursor) more, count ≤ c.remaining → part (c.extend more) = part c) :
    Steady r := by
  intro c more
  rw [run c]
  split
  · next enough =>
    have longer : count ≤ (c.extend more).remaining := by
      simp only [Cursor.extend, Cursor.remaining, List.length_append] at enough ⊢
      omega
    have behind : (c.extend more).advance count = (c.advance count).extend more := by
      simp only [Cursor.extend, Cursor.advance, List.drop_append_of_le_length enough]
    rw [run, if_pos longer, same c more enough, behind]
    exact .inr rfl
  · exact .inl ⟨_, _, rfl⟩

protected theorem bytes (count : Nat) : Steady (Reader.bytes count) :=
  sized (fun c => c.window.take count) (fun _ => rfl)
    fun _ _ enough => List.take_append_of_le_length enough

protected theorem window (count : Nat) : Steady (Reader.window count) := by
  refine sized (fun c => c.bounded count) (fun _ => rfl) fun c more enough => ?_
  simp only [Cursor.bounded, Cursor.extend, List.take_append_of_le_length enough]

protected theorem groups (start bits : Nat) : Steady (Leb128.groups start bits) := by
  induction bits using Nat.strongRecOn with
  | ind bits ih =>
    unfold Leb128.groups
    split
    · next bits =>
      exact Steady.byte.bind fun b => (Steady.pure _).ite
        ((ih (bits + 1) (by omega)).bind fun _ => Steady.pure _)
    · exact Steady.byte.bind fun b => (Steady.throw _).ite ((Steady.throw _).ite (Steady.pure _))

protected theorem u32 : Steady Reader.u32 :=
  (Steady.offset.bind fun start => Steady.groups start 32).bind fun _ => Steady.pure _

/-- The frame of a section holds the whole payload, so nothing in it depends on what follows. -/
protected theorem frame : Steady Reader.frame :=
  Steady.offset.bind fun _ => Steady.byte.bind fun _ => Steady.u32.bind fun _ =>
    (Steady.window _).bind fun _ => Steady.pure _

protected theorem header : Steady Reader.header :=
  (Steady.bytes 4).bind fun _ => (Steady.throw _).ite
    (((Steady.bytes 4).bind fun _ => Steady.pure _).bind fun _ =>
      (Steady.throw _).ite (Steady.pure _))

end Steady

end Reader

/-! ## Sections -/

namespace Draft

/-- A window that goes on to be read without an error is cut off behind a section, or found to be
too short. -/
theorem cutShort_or_items_of_sections_extend {d d' : Draft} {c : Cursor} {more : Bytes}
    (h : d.sections (c.extend more) = .ok d') :
    CutShort (d.sections c) ∨
      ∃ front back, Spelling.Items RawSection.SpelledBy front c.window ∧
        Spelling.Items RawSection.SpelledBy back more := by
  -- induction on what is left of the shorter window, of which each frame takes some
  generalize size : c.remaining = n
  induction n using Nat.strongRecOn generalizing d c with
  | ind n ih =>
    by_cases done : c.window = []
    · obtain ⟨back, spelled, _⟩ := sections_eq_ok_iff.1 h
      rw [Cursor.extend, done, List.nil_append] at spelled
      exact .inr ⟨[], back, done ▸ .nil, spelled⟩
    · have goesOn : (c.extend more).window ≠ [] := fun none =>
        done (List.append_eq_nil_iff.1 none).1
      obtain ⟨f, _, d₁, longer, hs, run⟩ := (sections_eq_ok_iff_step goesOn).1 h
      rw [sections_eq_bind done]
      rcases Reader.Steady.frame.cutShort_or_of_ok longer with cut | ⟨rest, hf, rfl⟩
      · exact .inl (cut.bind _)
      · have shorter := Reader.Consumes.frame _ _ _ hf
        rw [hf]
        change CutShort (d.step f >>= fun d₁ => d₁.sections rest) ∨ _
        rw [hs]
        refine (ih rest.remaining (by omega) run rfl).imp_right fun whole => ?_
        obtain ⟨front, back, spelled, others⟩ := whole
        exact ⟨_, back, items_cons_iff.2 ⟨f, rest, hf, rfl, spelled⟩, others⟩

/-- An error that does not lie in the end of the window stays the same when the window goes on. -/
theorem sections_extend_of_error {d : Draft} {c : Cursor} {e : FormatError}
    (h : d.sections c = .error e) (final : ∀ offset needed, e ≠ .unexpectedEnd offset needed)
    (more : Bytes) : d.sections (c.extend more) = .error e := by
  generalize size : c.remaining = n
  induction n using Nat.strongRecOn generalizing d c with
  | ind n ih =>
    have some : c.window ≠ [] := by
      intro done
      rw [sections_of_end done] at h
      cases h
    have goesOn : (c.extend more).window ≠ [] := fun none =>
      some (List.append_eq_nil_iff.1 none).1
    rw [sections_eq_bind some] at h
    rw [sections_eq_bind goesOn]
    rcases Outcome.bind_eq_error_iff.1 h with failed | ⟨⟨f, rest⟩, hf, h⟩
    · rw [Reader.Steady.frame.error failed final more]
      rfl
    · rw [Reader.Steady.frame.ok hf more]
      -- the frame is the same, and so is what the step makes of it
      rcases Outcome.bind_eq_error_iff.1 h with failed | ⟨d₁, hs, h⟩
      · exact Outcome.bind_eq_error_iff.2 (.inr ⟨_, rfl, Outcome.bind_eq_error_iff.2 (.inl failed)⟩)
      · have shorter := Reader.Consumes.frame _ _ _ hf
        exact Outcome.bind_eq_error_iff.2 (.inr ⟨_, rfl, Outcome.bind_eq_error_iff.2
          (.inr ⟨d₁, hs, ih rest.remaining (by omega) h rfl⟩)⟩)

end Draft

/-! ## Binaries -/

/-- The errors that may be gone when the binary goes on: those of a read that lacks bytes, and those
of indices and bodies, which are counted when all sections are read. -/
inductive FormatError.Provisional : FormatError → Prop
  | unexpectedEnd {offset needed : Nat} : Provisional (.unexpectedEnd offset needed)
  | unresolved {e : FormatError} : e.Unresolved → Provisional e

namespace Module

/-- The number of bytes up to the end of the header, or up to the end of one of the sections of a
binary. -/
def IsBoundary (binary : Bytes) (size : Nat) : Prop :=
  ∃ front back before behind, binary = header ++ before ++ behind ∧
    Spelling.Items RawSection.SpelledBy front before ∧
    Spelling.Items RawSection.SpelledBy back behind ∧ size = (header ++ before).length

theorem decode_eq_bind (binary : Bytes) :
    decode binary = Reader.header (.start binary) >>= fun p =>
      Draft.sections {} p.2 >>= Draft.finish := rfl

/-- A module that is not cut off at a boundary is found to be too short. -/
theorem cutShort_decode {front more : Bytes} {m : Module} (h : decode (front ++ more) = .ok m)
    (inside : ¬ IsBoundary (front ++ more) front.length) : CutShort (decode front) := by
  rw [decode_eq_bind] at h ⊢
  obtain ⟨⟨_, _⟩, first, h⟩ := Outcome.bind_eq_ok_iff.1 h
  obtain ⟨d, run, _⟩ := Outcome.bind_eq_ok_iff.1 h
  rcases Reader.Steady.header.cutShort_or_of_ok (c := .start front) first with cut | ⟨c, short, rfl⟩
  · exact cut.bind _
  · rw [short]
    rcases Draft.cutShort_or_items_of_sections_extend run with cut | ⟨all, others, spelled, behind⟩
    · exact cut.bind _
    · obtain ⟨_, rfl, split, _⟩ := (Reader.Accepts.header _ _ _).1 short
      have whole : front = header ++ c.window := split
      refine absurd ⟨all, others, c.window, more, ?_, spelled, behind, ?_⟩ inside
      · rw [whole]
      · rw [whole]

/-- A structural error is there whatever follows. -/
theorem decode_append_of_error {binary : Bytes} {e : FormatError} (h : decode binary = .error e)
    (final : ¬ e.Provisional) (more : Bytes) : decode (binary ++ more) = .error e := by
  have notEnd : ∀ offset needed, e ≠ .unexpectedEnd offset needed := by
    intro offset needed same
    rw [same] at final
    exact final .unexpectedEnd
  rw [decode_eq_bind] at h ⊢
  have longer : Cursor.start (binary ++ more) = (Cursor.start binary).extend more := rfl
  rw [longer]
  rcases Outcome.bind_eq_error_iff.1 h with failed | ⟨⟨_, c⟩, first, h⟩
  · rw [Reader.Steady.header.error failed notEnd more]
    rfl
  · rw [Reader.Steady.header.ok first more]
    rcases Outcome.bind_eq_error_iff.1 h with failed | ⟨d, _, h⟩
    · have same := Draft.sections_extend_of_error failed notEnd more
      exact Outcome.bind_eq_error_iff.2 (.inr ⟨_, rfl, Outcome.bind_eq_error_iff.2 (.inl same)⟩)
    · -- all sections were read, so the error is one of resolving
      rcases Outcome.bind_eq_error_iff.1 h with failed | ⟨_, _, none⟩
      · exact absurd (.unresolved (unresolved_of_resolve failed)) final
      · cases none

/-- **A module that is cut off inside its header or a section is found to be too short, and a
structural error stays what it is, whatever follows.** -/
theorem decode_cut_or_extended (binary : Bytes) :
    (∀ m, decode binary = .ok m → ∀ front, front <+: binary → ¬ IsBoundary binary front.length →
      ∃ offset needed, decode front = .error (.unexpectedEnd offset needed)) ∧
    ∀ e, decode binary = .error e → ¬ e.Provisional →
      ∀ more, decode (binary ++ more) = .error e := by
  constructor
  · intro m h front start inside
    obtain ⟨more, rfl⟩ := start
    exact cutShort_decode h inside
  · intro e h final more
    exact decode_append_of_error h final more

/-- A module with one signature, cut off behind the size of its section; and a section of an unknown
id, with anything behind it. -/
theorem decode_cut_or_extended_signature :
    (∃ m, decode (header ++ [0x01, 0x04, 0x01, 0x60, 0x00, 0x00]) = .ok m ∧
      ¬ IsBoundary (header ++ [0x01, 0x04, 0x01, 0x60, 0x00, 0x00]) 10 ∧
      ∃ offset needed, decode (header ++ [0x01, 0x04]) = .error (.unexpectedEnd offset needed)) ∧
    decode (header ++ [0x0d, 0x00]) = .error (.unknownSection 13 8) ∧
      ∀ more, decode (header ++ [0x0d, 0x00] ++ more) = .error (.unknownSection 13 8) := by
  have inside : ¬ IsBoundary (header ++ [0x01, 0x04, 0x01, 0x60, 0x00, 0x00]) 10 := by
    intro boundary
    obtain ⟨front, _, before, behind, split, spelled, _, size⟩ := boundary
    have two : before.length = 2 := by
      rw [List.length_append] at size
      exact Nat.add_left_cancel size.symm
    -- two bytes behind the header there is an id and a size, but no payload
    have same : before = [0x01, 0x04] := by
      rw [List.append_assoc, List.append_right_inj] at split
      have parts : [0x01, 0x04] ++ [0x01, 0x60, 0x00, 0x00] = before ++ behind := split
      exact (List.append_inj_left parts two.symm).symm
    subst same
    cases front with
    | nil => cases spelled
    | cons s others =>
      obtain ⟨_, _, hf, _⟩ := (Draft.items_cons_iff (c := ⟨8, [0x01, 0x04]⟩)).1 spelled
      cases hf
  have h : decode (header ++ [0x01, 0x04, 0x01, 0x60, 0x00, 0x00]) =
      .ok { signatures := [⟨[], []⟩] } := by cbv
  have failed : decode (header ++ [0x0d, 0x00]) = .error (.unknownSection 13 8) := by cbv
  have notProvisional : ¬ (FormatError.unknownSection 13 8).Provisional := by
    intro provisional
    cases provisional with
    | unresolved unresolved => cases unresolved
  refine ⟨⟨_, h, inside, (decode_cut_or_extended _).1 _ h (header ++ [0x01, 0x04]) ?_ inside⟩,
    failed, (decode_cut_or_extended _).2 _ failed notProvisional⟩
  exact ⟨[0x01, 0x60, 0x00, 0x00], rfl⟩

end Module

end WasmBindings
