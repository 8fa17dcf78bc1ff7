import WasmBindings.Proofs.Binary.Relocation

/-!
# Custom sections

A custom section is read for its name and then forgotten: it has no place in the order and fills no
field. So it may be put in wherever a section may start. The module stays the same, and so does
every error, except that one raised behind the section points that much further on.
-/

namespace WasmBindings

/-- A custom section: id 0, and a payload that starts with a name. -/
def RawSection.IsCustom (s : RawSection) : Prop :=
  s.id = 0 ∧ ∃ text name content, Spelling.Name text name ∧ s.payload = name ++ content

namespace Draft

/-- Taking in a custom section leaves everything as it is. -/
theorem step_of_isCustom {s : RawSection} (custom : s.IsCustom) (d : Draft) (offset inner : Nat) :
    d.step ⟨offset, s.id, ⟨inner, s.payload⟩⟩ = .ok d := by
  obtain ⟨id, text, name, content, spelled, split⟩ := custom
  have unranked : ∀ rank ∈ SectionKind.custom.rank?, d.lastRank < rank := by
    intro rank none
    cases none
  exact step_eq_ok_iff.2
    ⟨.custom, .custom text, id.symm, unranked, ⟨text, name, content, spelled, split, rfl⟩, rfl⟩

/-- What stands behind a custom section is read as if it stood in its place, further on. -/
theorem sections_custom_append {s : RawSection} {custom : Bytes} (spelled : s.SpelledBy custom)
    (inert : s.IsCustom) (d : Draft) (offset : Nat) (back : Bytes) :
    d.sections ⟨offset, custom ++ back⟩ =
      (d.sections ⟨offset, back⟩).mapError (·.moved custom.length) := by
  obtain ⟨size, hs, rfl⟩ := spelled
  have place : offset + (1 + size.length) + s.payload.length =
      offset + (s.id :: (size ++ s.payload)).length := by
    rw [List.length_cons, List.length_append]
    omega
  rw [← sections_moved, List.cons_append, List.append_assoc, sections_cons hs,
    step_of_isCustom inert, place]
  rfl

end Draft

namespace Module

/-- Reading fails behind some sections: they are taken in, and the error is raised in what follows
them. -/
def FailsBehind (before behind : Bytes) (e : FormatError) : Prop :=
  ∃ d, Draft.sections {} ⟨header.length, before⟩ = .ok d ∧
    d.sections ⟨header.length + before.length, behind⟩ = .error e

/-- The sections behind a row of sections are read when the row has been taken in. -/
theorem decode_header_append_append {all : List RawSection} {before : Bytes}
    (whole : Spelling.Items RawSection.SpelledBy all before) (behind : Bytes) :
    decode (header ++ before ++ behind) = Draft.sections {} ⟨header.length, before⟩ >>= fun d =>
      d.sections ⟨header.length + before.length, behind⟩ >>= Draft.finish := by
  rw [List.append_assoc, decode_header_append, Draft.sections_append whole]
  cases Draft.sections {} ⟨header.length, before⟩ <;> rfl

/-- **A custom section between two others changes nothing but the places of the errors behind
it.** -/
theorem decode_insert_custom {all : List RawSection} {s : RawSection}
    {before custom : Bytes} (whole : Spelling.Items RawSection.SpelledBy all before)
    (spelled : s.SpelledBy custom) (inert : s.IsCustom) (behind : Bytes) :
    (∀ m, decode (header ++ before ++ custom ++ behind) = .ok m ↔
      decode (header ++ before ++ behind) = .ok m) ∧
    ∀ e, decode (header ++ before ++ behind) = .error e →
      (FailsBehind before behind e →
        decode (header ++ before ++ custom ++ behind) = .error (e.moved custom.length)) ∧
      (¬ FailsBehind before behind e →
        decode (header ++ before ++ custom ++ behind) = .error e) := by
  rw [List.append_assoc _ custom, decode_header_append_append whole behind,
    decode_header_append_append whole (custom ++ behind)]
  simp only [Draft.sections_custom_append spelled inert]
  unfold FailsBehind
  cases Draft.sections {} ⟨header.length, before⟩ with
  | error e =>
    -- the error lies in front of the custom section
    refine ⟨fun m => Iff.rfl, fun e' failed => ⟨fun behind => ?_, fun _ => failed⟩⟩
    obtain ⟨_, none, _⟩ := behind
    cases none
  | ok d =>
    change (∀ m, (d.sections _).mapError _ >>= _ = _ ↔ d.sections _ >>= _ = _) ∧
      ∀ e, d.sections _ >>= _ = _ → (_ → (d.sections _).mapError _ >>= _ = _) ∧
        (_ → (d.sections _).mapError _ >>= _ = _)
    cases failed : d.sections ⟨header.length + before.length, behind⟩ with
    | error e =>
      refine ⟨fun m => ⟨fun none => ?_, fun none => ?_⟩, fun e' same => ?_⟩
      · cases none
      · cases none
      · cases same
        exact ⟨fun _ => rfl, fun elsewhere => absurd ⟨d, rfl, failed⟩ elsewhere⟩
    | ok d₁ =>
      -- all sections can be read, so what is left is the check of indices
      refine ⟨fun m => Iff.rfl, fun e' unresolved => ⟨fun behind => ?_, fun _ => unresolved⟩⟩
      obtain ⟨_, same, none⟩ := behind
      cases same
      rw [failed] at none
      cases none

/-- A custom section of four bytes between a signature and a section of an unknown id. -/
theorem decode_insert_custom_named :
    FailsBehind [0x01, 0x04, 0x01, 0x60, 0x00, 0x00] [0x0d, 0x00] (.unknownSection 13 14) ∧
      decode (header ++ [0x01, 0x04, 0x01, 0x60, 0x00, 0x00] ++ [0x00, 0x02, 0x01, 0x61] ++
        [0x0d, 0x00]) = .error (.unknownSection 13 18) := by
  have whole : Spelling.Items RawSection.SpelledBy [⟨1, [0x01, 0x60, 0x00, 0x00]⟩]
      ([0x01, 0x04, 0x01, 0x60, 0x00, 0x00] ++ []) :=
    .cons ⟨[0x04], Leb128.spelledBy_singleton 4 (by decide), rfl⟩ .nil
  have spelled : RawSection.SpelledBy ⟨0, [0x01, 0x61]⟩ [0x00, 0x02, 0x01, 0x61] :=
    ⟨[0x02], Leb128.spelledBy_singleton 2 (by decide), rfl⟩
  have inert : RawSection.IsCustom ⟨0, [0x01, 0x61]⟩ :=
    ⟨rfl, "a", [0x01, 0x61], [], ⟨[0x01], Leb128.spelledBy_singleton 1 (by decide), rfl⟩, rfl⟩
  have failed : decode (header ++ [0x01, 0x04, 0x01, 0x60, 0x00, 0x00] ++ [0x0d, 0x00]) =
      .error (.unknownSection 13 14) := by cbv
  have behind : FailsBehind [0x01, 0x04, 0x01, 0x60, 0x00, 0x00] [0x0d, 0x00]
      (.unknownSection 13 14) :=
    ⟨{ interface := { signatures := [⟨[], []⟩] }, lastRank := 1 }, by cbv, by cbv⟩
  exact ⟨behind, ((decode_insert_custom whole spelled inert [0x0d, 0x00]).2 _ failed).1 behind⟩

end Module

end WasmBindings
