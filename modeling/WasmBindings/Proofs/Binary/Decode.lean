import WasmBindings.Proofs.Binary.Draft

/-!
# What decoding accepts

Decoding succeeds exactly on the binaries that spell a module, and gives that module. One direction
reads the description of the module off the run that the reader made; the other makes the run from
the description, and finds that it can only have gathered the module described.
-/

namespace WasmBindings

/-! ## The header -/

namespace Reader.Accepts

protected theorem word : Accepts Reader.word (fun n bytes => bytes.length = 4 ∧
    n = UInt32.ofNat (bytes.foldr (fun b high => b.toNat + 256 * high) 0)) := by
  refine ((Accepts.bytes 4).map fun raw =>
    UInt32.ofNat (raw.foldr (fun b high => b.toNat + 256 * high) 0)).congr fun n bytes => ?_
  constructor
  · intro h
    obtain ⟨raw, ⟨rfl, size⟩, rfl⟩ := h
    exact ⟨size, rfl⟩
  · intro h
    obtain ⟨size, rfl⟩ := h
    exact ⟨bytes, ⟨rfl, size⟩, rfl⟩

/-- Version 1 is the byte 1 and three zeros. -/
theorem version_one_iff {bytes : Bytes} : (bytes.length = 4 ∧
    (1 : UInt32) = UInt32.ofNat (bytes.foldr (fun b high => b.toNat + 256 * high) 0)) ↔
    bytes = [0x01, 0x00, 0x00, 0x00] := by
  constructor
  · intro h
    obtain ⟨size, version⟩ := h
    obtain ⟨a, b, c, d, rfl⟩ : ∃ a b c d, bytes = [a, b, c, d] := by
      match bytes, size with
      | [a, b, c, d], _ => exact ⟨a, b, c, d, rfl⟩
    have ha := a.toNat_lt
    have hb := b.toNat_lt
    have hc := c.toNat_lt
    have hd := d.toNat_lt
    -- the four bytes amount to 1, which leaves no choice for any of them
    have value : a.toNat + 256 * (b.toNat + 256 * (c.toNat + 256 * d.toNat)) = 1 := by
      have same := congrArg UInt32.toNat version
      rw [UInt32.toNat_ofNat_of_lt'] at same
      · exact same.symm
      · change a.toNat + 256 * (b.toNat + 256 * (c.toNat + 256 * (d.toNat + 256 * 0))) < 2 ^ 32
        omega
    have a1 : a = 1 := UInt8.toNat_inj.1 (show a.toNat = 1 by omega)
    have b0 : b = 0 := UInt8.toNat_inj.1 (show b.toNat = 0 by omega)
    have c0 : c = 0 := UInt8.toNat_inj.1 (show c.toNat = 0 by omega)
    have d0 : d = 0 := UInt8.toNat_inj.1 (show d.toNat = 0 by omega)
    rw [a1, b0, c0, d0]
  · intro h
    obtain rfl := h
    exact ⟨rfl, rfl⟩

/-- The header is the magic bytes and version 1. -/
protected theorem header : Accepts Reader.header (fun _ bytes => bytes = Module.header) := by
  have version : Accepts (Reader.word >>= fun version =>
      if version ≠ 1 then throw (.unknownVersion version) else pure ())
      (fun _ bytes => bytes = [0x01, 0x00, 0x00, 0x00]) := by
    refine (Accepts.word.bind fun version => (Accepts.throw (.unknownVersion version)).ite
      (p := version ≠ 1) (Accepts.pure ())).congr fun _ bytes => ?_
    rw [← version_one_iff]
    constructor
    · intro h
      obtain ⟨version, front, back, ⟨size, value⟩, checked, rfl⟩ := h
      split at checked
      · exact checked.elim
      · next one =>
        obtain ⟨_, rfl⟩ := checked
        rw [Decidable.not_not.1 one] at value
        rw [List.append_nil]
        exact ⟨size, value⟩
    · intro h
      obtain ⟨size, value⟩ := h
      exact ⟨1, bytes, [], ⟨size, value⟩, ⟨rfl, rfl⟩, (List.append_nil _).symm⟩
  refine ((Accepts.bytes 4).bind fun magic => (Accepts.throw (.badMagic magic)).ite
    (p := magic ≠ [0x00, 0x61, 0x73, 0x6d]) version).congr fun _ bytes => ?_
  constructor
  · intro h
    obtain ⟨magic, front, back, ⟨rfl, _⟩, checked, rfl⟩ := h
    split at checked
    · exact checked.elim
    · next right => rw [Decidable.not_not.1 right, checked, Module.header]
  · intro h
    obtain rfl := h
    refine ⟨[0x00, 0x61, 0x73, 0x6d], _, [0x01, 0x00, 0x00, 0x00], ⟨rfl, rfl⟩, ?_, rfl⟩
    rw [if_neg (by decide)]

end Reader.Accepts

/-! ## Decoding in steps -/

theorem Draft.finish_eq_ok_iff {d : Draft} {m : Module} :
    d.finish = .ok m ↔ m = d.interface ∧ m.Consistent ∧ d.bodies = m.functions.length := by
  unfold finish
  rw [Outcome.check_bind_eq_ok_iff, Module.resolve_eq_ok_iff]
  constructor
  · intro h
    obtain ⟨consistent, same⟩ := h
    cases same
    exact ⟨rfl, consistent⟩
  · intro h
    obtain ⟨rfl, consistent⟩ := h
    exact ⟨consistent, rfl⟩

namespace Module

/-- Behind the header stand the sections, and the indices are resolved in the end. -/
theorem decode_header_append (body : Bytes) :
    decode (header ++ body) = Draft.sections {} ⟨header.length, body⟩ >>= Draft.finish := by
  have first : Reader.header (.start (header ++ body)) = .ok ((), ⟨header.length, body⟩) :=
    (Reader.Accepts.header _ _ _).2 ⟨header, rfl, rfl, (Nat.zero_add _).symm⟩
  change Reader.header (.start (header ++ body)) >>= _ = _
  rw [first]
  rfl

/-- Decoding takes off the header, makes a run over the sections, and resolves what it gathered. -/
theorem decode_eq_ok_iff_run {m : Module} {binary : Bytes} :
    decode binary = .ok m ↔ ∃ body all d, binary = header ++ body ∧
      Spelling.Items RawSection.SpelledBy all body ∧ Draft.Run {} all d ∧ d.finish = .ok m := by
  unfold decode
  rw [Outcome.bind_eq_ok_iff]
  constructor
  · intro h
    obtain ⟨⟨_, rest⟩, first, finish⟩ := h
    obtain ⟨_, rfl, hw, _⟩ := (Reader.Accepts.header _ _ _).1 first
    obtain ⟨d, run, finish⟩ := Outcome.bind_eq_ok_iff.1 finish
    obtain ⟨all, spelled, run⟩ := Draft.sections_eq_ok_iff.1 run
    exact ⟨rest.window, all, d, hw, spelled, run, finish⟩
  · intro h
    obtain ⟨body, all, d, rfl, spelled, run, finish⟩ := h
    refine ⟨((), ⟨header.length, body⟩), ?_, Outcome.bind_eq_ok_iff.2 ⟨d, ?_, finish⟩⟩
    · exact (Reader.Accepts.header _ _ _).2 ⟨header, rfl, rfl, (Nat.zero_add _).symm⟩
    · exact Draft.sections_eq_ok_iff.2 ⟨all, spelled, run⟩

end Module

/-! ## From a run to a description -/

theorem Draft.Run.tells_of_mem {d d' : Draft} {all : List RawSection} (run : Draft.Run d all d') :
    ∀ s ∈ all, ∃ kind said, SectionKind.id kind = s.id ∧
      Contents.SpelledBy said s.payload kind := by
  induction run with
  | nil => exact fun _ none => absurd none (List.not_mem_nil)
  | cons step _ ih =>
    obtain ⟨kind, said, id, _, spelled, _⟩ := step
    intro s hs
    rcases List.mem_cons.1 hs with rfl | hs
    · exact ⟨kind, said, id, spelled⟩
    · exact ih s hs

/-- The sections of a run describe what it gathered. -/
theorem Draft.Run.describes {d : Draft} {all : List RawSection} (run : Draft.Run {} all d)
    (bodies : d.bodies = d.interface.functions.length) : d.interface.DescribedBy all where
  order := run.placed
  custom := by
    intro s hs custom
    obtain ⟨kind, said, id, spelled⟩ := run.tells_of_mem s hs
    rw [custom] at id
    -- 0 is the id of no other kind
    cases kind with
    | custom =>
      obtain ⟨text, name, rest, spelled, split, _⟩ := spelled
      exact ⟨text, name, rest, spelled, split⟩
    | _ => exact absurd id (by decide)
  signatures := run.tells Draft.signatures_field
  imports := run.tells Draft.imports_field
  functions := run.tells Draft.functions_field
  tables := run.tells Draft.tables_field
  memories := run.tells Draft.memories_field
  globals := run.tells Draft.globals_field
  exports := run.tells Draft.exports_field
  bodies := bodies ▸ run.tells Draft.bodies_field

/-! ## From a description to a run -/

theorem Spelling.leading_unambiguous : Spelling.Unambiguous Spelling.Leading := by
  intro a b bytes h₁ h₂
  obtain ⟨count, rest, first, rfl⟩ := h₁
  obtain ⟨count', rest', second, split⟩ := h₂
  exact ((Reader.Accepts.read _ (by decide)).append_inj first second split).1

/-- What sections say is one value. -/
theorem RawSection.Says.unique {S : Spelling α} {all : List RawSection} {id : UInt8}
    {absent a b : α} (clear : S.Unambiguous) (ha : RawSection.Says all id S absent a)
    (hb : RawSection.Says all id S absent b) : a = b := by
  by_cases none : ∀ s ∈ all, s.id ≠ id
  · rw [ha.missing none, hb.missing none]
  · obtain ⟨s, none⟩ := Classical.not_forall.1 none
    obtain ⟨hs, none⟩ := Classical.not_imp.1 none
    have hid := Decidable.not_not.1 none
    exact clear a b s.payload (ha.present s hs hid) (hb.present s hs hid)

namespace Module

attribute [ext] Module

/-- Each section of a description says something. -/
theorem DescribedBy.told {m : Module} {all : List RawSection} (h : m.DescribedBy all) :
    ∀ s ∈ all, ∀ kind, SectionKind.id kind = s.id →
      ∃ said, Contents.SpelledBy said s.payload kind := by
  intro s hs kind id
  cases kind with
  | custom =>
    obtain ⟨text, name, rest, spelled, split⟩ := h.custom s hs id.symm
    exact ⟨_, text, name, rest, spelled, split, rfl⟩
  | signatures => exact ⟨_, _, h.signatures.present s hs id.symm, rfl⟩
  | imports => exact ⟨_, _, h.imports.present s hs id.symm, rfl⟩
  | functions => exact ⟨_, _, h.functions.present s hs id.symm, rfl⟩
  | tables => exact ⟨_, _, h.tables.present s hs id.symm, rfl⟩
  | memories => exact ⟨_, _, h.memories.present s hs id.symm, rfl⟩
  | globals => exact ⟨_, _, h.globals.present s hs id.symm, rfl⟩
  | exports => exact ⟨_, _, h.exports.present s hs id.symm, rfl⟩
  | code =>
    -- the number of bodies was spelled in 32 bits, so it can be said
    obtain ⟨count, rest, spelled, split⟩ := h.bodies.present s hs id.symm
    have same : (UInt32.ofNat m.functions.length).toNat = m.functions.length :=
      UInt32.toNat_ofNat_of_lt' spelled.fits
    exact ⟨_, UInt32.ofNat m.functions.length, ⟨count, rest, by rwa [same], split⟩, rfl⟩
  | start | elements | data | dataCount => exact ⟨_, rfl⟩

/-- A run over the sections of a description gathers the module described. -/
theorem DescribedBy.gathered {m : Module} {all : List RawSection} {d : Draft}
    (h : m.DescribedBy all) (run : Draft.Run {} all d) :
    m = d.interface ∧ d.bodies = m.functions.length := by
  refine ⟨?_, (run.tells Draft.bodies_field).unique Spelling.leading_unambiguous h.bodies⟩
  ext1
  · exact h.signatures.unique Reader.Accepts.signature.vector.unambiguous
      (run.tells Draft.signatures_field)
  · exact h.imports.unique Reader.Accepts.importEntry.vector.unambiguous
      (run.tells Draft.imports_field)
  · exact h.functions.unique Reader.Accepts.u32.vector.unambiguous
      (run.tells Draft.functions_field)
  · exact h.tables.unique Reader.Accepts.table.vector.unambiguous (run.tells Draft.tables_field)
  · exact h.memories.unique Reader.Accepts.limits.vector.unambiguous
      (run.tells Draft.memories_field)
  · exact UInt32.toNat_inj.1
      (h.globals.unique Spelling.leading_unambiguous (run.tells Draft.globals_field))
  · exact h.exports.unique Reader.Accepts.exportEntry.vector.unambiguous
      (run.tells Draft.exports_field)

/-! ## The format and its reader -/

/-- A module that was decoded is spelled by its binary. -/
theorem spelledBy_of_decode {m : Module} {binary : Bytes} (h : decode binary = .ok m) :
    m.SpelledBy binary := by
  obtain ⟨body, all, d, split, spelled, run, finish⟩ := decode_eq_ok_iff_run.1 h
  obtain ⟨rfl, consistent, bodies⟩ := Draft.finish_eq_ok_iff.1 finish
  exact ⟨all, body, split, spelled, run.describes bodies, consistent⟩

/-- A binary that spells a module can be decoded. -/
theorem decode_of_spelledBy {m : Module} {binary : Bytes} (h : m.SpelledBy binary) :
    decode binary = .ok m := by
  obtain ⟨all, body, split, spelled, described, consistent⟩ := h
  -- the run exists because each section says something, and can only gather `m`
  obtain ⟨d, run⟩ := Draft.exists_run (d := {}) described.order described.told
  obtain ⟨same, bodies⟩ := described.gathered run
  exact decode_eq_ok_iff_run.2
    ⟨body, all, d, split, spelled, run, Draft.finish_eq_ok_iff.2 ⟨same, consistent, bodies⟩⟩

/-- **Decoding accepts exactly the format of modules, and gives exactly the module spelled.** -/
theorem decode_eq_ok_iff {m : Module} {binary : Bytes} :
    decode binary = .ok m ↔ m.SpelledBy binary :=
  ⟨spelledBy_of_decode, decode_of_spelledBy⟩

end Module

end WasmBindings
