import Mathlib
import WasmBindings.Proofs.Binary.Decode
import WasmBindings.Proofs.Binary.EntryFault
import WasmBindings.Proofs.Module.Violations

/-!
# Where errors point

The errors of a binary name the bytes that are at fault, by their offset in the whole binary.
`FormatError.LocatedIn` says for each kind of error what stands there, in terms of the binary and of
nothing that was read from it: a section starts there, an integer is due there, the window ends
there. Sections are read one after the other, so the place in the binary is carried along with the
sections that came before it (`Draft.locatedIn_of_sections`), and what a reader blames in the window
of a payload is carried over to the binary (`FormatError.FaultIn.locatedIn`).
-/

namespace WasmBindings

/-- The integers of the payload of a section. -/
def Contents.IntegerAfter : SectionKind → IntegerSites
  | .signatures => Spelling.Vector.IntegerAfter Signature.SpelledBy Signature.IntegerAfter
  | .imports => Spelling.Vector.IntegerAfter Import.SpelledBy Import.IntegerAfter
  | .functions => Spelling.Vector.IntegerAfter Spelling.U32 (.front 32)
  | .tables => Spelling.Vector.IntegerAfter TableType.SpelledBy TableType.IntegerAfter
  | .memories => Spelling.Vector.IntegerAfter Limits.SpelledBy Limits.IntegerAfter
  | .exports => Spelling.Vector.IntegerAfter Export.SpelledBy Export.IntegerAfter
  | .custom | .globals | .code => .front 32
  | .start | .elements | .data | .dataCount => .none

/-- The rank of the kind that the id of a section announces. -/
def RawSection.rank? (s : RawSection) : Option Nat := (SectionKind.ofId? s.id).bind (·.rank?)

namespace Module

/-- A section of a binary: it comes behind the sections `earlier`, starts at `offset`, and has its
payload at `inner`. -/
def SectionAt (binary : Bytes) (earlier : List RawSection) (s : RawSection) (offset inner : Nat) :
    Prop :=
  ∃ front size behind,
    binary = header ++ (front ++ s.id :: (size ++ (s.payload ++ behind))) ∧
    Spelling.Items RawSection.SpelledBy earlier front ∧
    Leb128.SpelledBy 32 s.payload.length size ∧
    offset = (header ++ front).length ∧ inner = offset + 1 + size.length

/-- Where a binary has integers, and of how many bits: the size of a section behind its id, and
those of its payload. -/
inductive IntegerAt (binary : Bytes) (offset : Nat) : (bits : Nat) → Prop
  | size {earlier : List RawSection} {front rest : Bytes} {id : UInt8} :
      binary = header ++ (front ++ id :: rest) → Spelling.Items RawSection.SpelledBy earlier front →
      offset = (header ++ front).length + 1 → IntegerAt binary offset 32
  | payload {earlier : List RawSection} {s : RawSection} {start inner bits : Nat}
      {kind : SectionKind} {before rest : Bytes} :
      SectionAt binary earlier s start inner → SectionKind.id kind = s.id →
      s.payload = before ++ rest → Contents.IntegerAfter kind bits before →
      offset = inner + before.length → IntegerAt binary offset bits

/-- The windows of a binary that are read: the whole of it, and the payload of each section. -/
inductive IsWindow (binary : Bytes) : (start stop : Nat) → Prop
  | whole : IsWindow binary 0 binary.length
  | payload {earlier : List RawSection} {s : RawSection} {offset inner : Nat} :
      SectionAt binary earlier s offset inner →
      IsWindow binary inner (inner + s.payload.length)

end Module

/-- The number that some bytes spell, the least significant first. -/
def littleEndian (bytes : Bytes) : Nat := bytes.foldr (fun b high => b.toNat + 256 * high) 0

/-- A read of so many bytes is due at an offset: one byte, as many as the number in front of the
offset announces, or one of the two words of the header. -/
def ReadAt (binary : Bytes) (offset count : Nat) : Prop :=
  count = 1 ∨ Announced count (binary.take offset) ∨ (count = 4 ∧ (offset = 0 ∨ offset = 4))

/-- What stands in a binary where an error points. -/
def FormatError.LocatedIn (binary : Bytes) : FormatError → Prop
  | unexpectedEnd offset needed =>
    1 ≤ needed ∧ offset ≤ binary.length ∧ ∃ start stop count, Module.IsWindow binary start stop ∧
      start ≤ offset ∧ offset ≤ stop ∧ stop ≤ binary.length ∧ ReadAt binary offset count ∧
      offset + count = stop + needed
  | badMagic found =>
    4 ≤ binary.length ∧ found = binary.take 4 ∧ found ≠ Module.header.take 4 ∧
      ∃ digits : List Char, digits.length = 8 ∧ (∀ c ∈ digits, Hex.IsDigit c) ∧
        Hex.decode? digits = some (binary.take 4) ∧ (badMagic found).message =
          "magic header not detected: expected 0061736d, got " ++ String.ofList digits
  | unknownVersion version =>
    8 ≤ binary.length ∧ binary.take 4 = Module.header.take 4 ∧
      version.toNat = littleEndian ((binary.drop 4).take 4) ∧ version ≠ 1
  | integerTooLong offset => ∃ bits, (bits = 32 ∨ bits = 64) ∧
      Module.IntegerAt binary offset bits ∧ Leb128.Endless bits (binary.drop offset)
  | integerTooLarge offset => ∃ bits, (bits = 32 ∨ bits = 64) ∧
      Module.IntegerAt binary offset bits ∧ Leb128.Oversized bits (binary.drop offset)
  | malformedUtf8 offset => ∃ raw, Announced raw.length (binary.take offset) ∧
      raw <+: binary.drop offset ∧ Utf8.decode? raw = none
  | unknownSection id offset => binary[offset]? = some id ∧ 12 < id ∧
      ∃ earlier s inner, Module.SectionAt binary earlier s offset inner ∧ s.id = id
  | sectionOutOfOrder id offset => binary[offset]? = some id ∧
      ∃ earlier s inner rank, Module.SectionAt binary earlier s offset inner ∧ s.id = id ∧
        s.rank? = some rank ∧ ∃ t ∈ earlier, ∃ rank' ∈ t.rank?, rank ≤ rank'
  | sectionSizeMismatch id declared consumed => consumed < declared ∧
      ∃ earlier s offset inner, Module.SectionAt binary earlier s offset inner ∧ s.id = id ∧
        declared = s.payload.length ∧ ∃ kind said, SectionKind.id kind = id ∧
          Contents.SpelledBy said (s.payload.take consumed) kind
  | badTypeForm form offset => binary[offset]? = some form ∧ form ≠ 0x60
  | badKind role tag offset => binary[offset]? = some tag ∧ role.largest < tag
  | badLimits flags offset => binary[offset]? = some flags ∧ 7 < flags
  -- the others concern no place, but what all sections together say
  | e@(unknownSignature ..) | e@(unknownExportIndex ..) | e@(functionBodyMismatch ..) =>
    ∃ all body d, binary = Module.header ++ body ∧ Spelling.Items RawSection.SpelledBy all body ∧
      Draft.Run {} all d ∧ d.interface.resolve d.bodies = .error e

/-! ## The widths of integers -/

theorem Spelling.Vector.IntegerAfter.width {S : Spelling α} {sites : IntegerSites}
    (items : ∀ bits before, sites bits before → bits = 32 ∨ bits = 64) {bits : Nat} {before : Bytes}
    (h : IntegerAfter S sites bits before) : bits = 32 ∨ bits = 64 := by
  cases h with
  | count => exact .inl rfl
  | item _ _ _ due => exact items _ _ due

theorem Limits.IntegerAfter.width {bits : Nat} {before : Bytes} (h : IntegerAfter bits before) :
    bits = 32 ∨ bits = 64 := by
  have flags (flags : UInt8) : Limits.width flags = 32 ∨ Limits.width flags = 64 := by
    unfold Limits.width
    split
    · exact .inl rfl
    · exact .inr rfl
  cases h with
  | min => exact flags _
  | max => exact flags _

theorem TableType.IntegerAfter.width {bits : Nat} {before : Bytes} (h : IntegerAfter bits before) :
    bits = 32 ∨ bits = 64 := by
  cases h with
  | limits due => exact due.width

/-- Every integer in a payload has 32 or 64 bits. -/
theorem Contents.IntegerAfter.width {kind : SectionKind} {bits : Nat} {before : Bytes}
    (h : IntegerAfter kind bits before) : bits = 32 ∨ bits = 64 := by
  have front {bits : Nat} {before : Bytes} (h : IntegerSites.front 32 bits before) :
      bits = 32 ∨ bits = 64 := .inl h.1
  cases kind with
  | custom | globals | code => exact front h
  | start | elements | data | dataCount => exact h.elim
  | functions => exact Spelling.Vector.IntegerAfter.width (fun _ _ => front) h
  | tables => exact Spelling.Vector.IntegerAfter.width (fun _ _ => TableType.IntegerAfter.width) h
  | memories => exact Spelling.Vector.IntegerAfter.width (fun _ _ => Limits.IntegerAfter.width) h
  | signatures =>
    refine Spelling.Vector.IntegerAfter.width (fun bits before due => ?_) h
    cases due with
    | parameters due => exact due.width fun _ _ none => none.elim
    | results _ due => exact due.width fun _ _ none => none.elim
  | imports =>
    refine Spelling.Vector.IntegerAfter.width (fun bits before due => ?_) h
    cases due with
    | moduleName | name => exact .inl rfl
    | kind _ _ due =>
      cases due with
      | function => exact .inl rfl
      | table due => exact due.width
      | memory due => exact due.width
  | exports =>
    refine Spelling.Vector.IntegerAfter.width (fun bits before due => ?_) h
    cases due with
    | name | index => exact .inl rfl

theorem Module.IntegerAt.width {binary : Bytes} {offset bits : Nat}
    (h : IntegerAt binary offset bits) : bits = 32 ∨ bits = 64 := by
  cases h with
  | size => exact .inl rfl
  | payload _ _ _ due => exact due.width

/-! ## From a window to the binary -/

/-- What is at fault in a window stands in the binary, the window's offset further on. -/
theorem FormatError.FaultIn.locatedIn {binary front back : Bytes} {sites : IntegerSites}
    {c : Cursor} {e : FormatError} {start : Nat} (h : e.FaultIn sites c)
    (split : binary = front ++ (c.window ++ back)) (place : c.offset = front.length)
    (window : Module.IsWindow binary start (c.offset + c.window.length)) (inside : start ≤ c.offset)
    (due : ∀ bits before rest, sites bits before → c.window = before ++ rest →
      Module.IntegerAt binary (c.offset + before.length) bits) : e.LocatedIn binary := by
  obtain ⟨before, rest, parts, fault⟩ := h
  have whole : binary = (front ++ before) ++ (rest ++ back) := by
    rw [split, parts, List.append_assoc, List.append_assoc]
  have offset : c.offset + before.length = (front ++ before).length := by
    rw [place, List.length_append]
  have taken : binary.take (c.offset + before.length) = front ++ before := by
    rw [whole, offset, List.take_left]
  have dropped : binary.drop (c.offset + before.length) = rest ++ back := by
    rw [whole, offset, List.drop_left]
  have announced {count : Nat} (h : Announced count before) :
      Announced count (binary.take (c.offset + before.length)) := taken ▸ h.behind front
  have first {b : UInt8} (h : rest.head? = some b) :
      binary[c.offset + before.length]? = some b := by
    obtain ⟨tail, rfl⟩ := List.head?_eq_some_iff.1 h
    rw [whole, offset, List.getElem?_append_right (Nat.le_refl _), Nat.sub_self]
    rfl
  cases fault with
  | unexpectedEnd read short =>
    have stop : c.offset + c.window.length = c.offset + before.length + rest.length := by
      rw [parts, List.length_append, Nat.add_assoc]
    have fits : c.offset + before.length + rest.length ≤ binary.length := by
      rw [offset, whole]
      simp only [List.length_append]
      omega
    rw [stop] at window
    refine ⟨by omega, by omega, start, _, _, window, by omega, by omega, fits,
      read.imp_right fun known => .inl (announced known), by omega⟩
  | integerTooLong site endless =>
    obtain ⟨run, prefixed, length, all⟩ := endless
    have due := due _ _ _ site parts
    exact ⟨_, due.width, due, run, dropped ▸ prefixed.trans (List.prefix_append _ _), length, all⟩
  | integerTooLarge site oversized =>
    obtain ⟨groups, last, prefixed, others⟩ := oversized
    have due := due _ _ _ site parts
    exact ⟨_, due.width, due, groups, last, dropped ▸ prefixed.trans (List.prefix_append _ _), others⟩
  | malformedUtf8 known prefixed invalid =>
    exact ⟨_, announced known, dropped ▸ prefixed.trans (List.prefix_append _ _), invalid⟩
  | badTypeForm head wrong => exact ⟨first head, wrong⟩
  | badKind head wrong => exact ⟨first head, wrong⟩
  | badLimits head wrong => exact ⟨first head, wrong⟩

namespace Reader.Blames

/-! ## Payloads and frames -/

/-- What is passed over has no faults. -/
protected theorem skipRest {α : Type} {sites : IntegerSites} (a : α) :
    Blames (skipRest >>= fun _ => pure a) sites := by
  intro c e run
  cases run

protected theorem contents (kind : SectionKind) :
    Blames (Reader.contents kind) (Contents.IntegerAfter kind) := by
  -- behind a leading part the rest of the payload is passed over
  have leading {α : Type} {r : Reader α} {S : Spelling α} {sites : IntegerSites} (accepts : Accepts r S)
      (blames : Blames r sites) (f : α → Contents) :
      Blames (r >>= fun a => skipRest >>= fun _ => pure (f a)) sites := by
    have next (a : α) : Blames (skipRest >>= fun _ => pure (f a)) .none := Blames.skipRest (f a)
    exact Blames.bind accepts blames next (fun _ _ due => due) fun _ _ _ _ _ none => none.elim
  have counted (f : UInt32 → Contents) :
      Blames (countOnly >>= fun n => pure (f n)) (.front 32) := by
    rw [countOnly_bind]
    exact leading Accepts.u32 Blames.u32 f
  cases kind with
  | custom => exact leading Accepts.name Blames.name Contents.custom
  | globals => exact counted Contents.globals
  | code => exact counted Contents.code
  | start | elements | data | dataCount => exact Blames.skipRest _
  | signatures => exact (Blames.vector Accepts.signature Blames.signature).map _
  | imports => exact (Blames.vector Accepts.importEntry Blames.importEntry).map _
  | functions => exact (Blames.vector Accepts.u32 Blames.u32).map _
  | tables => exact (Blames.vector Accepts.table Blames.table).map _
  | memories => exact (Blames.vector Accepts.limits Blames.limits).map _
  | exports => exact (Blames.vector Accepts.exportEntry Blames.exportEntry).map _

/-- The only integer of a frame is the size of the section, behind its id. -/
protected theorem frame : Blames Reader.frame (fun bits before =>
    bits = 32 ∧ ∃ id, before = [id]) := by
  refine tagged (s := fun _ => .front 32) ?_ ?_
  · intro id c e run
    rcases bind_eq_error_iff.1 run with failed | ⟨size, c₁, read, run⟩
    · exact .inr (Blames.u32 _ e failed)
    rcases bind_eq_error_iff.1 run with failed | ⟨_, _, _, none⟩
    · unfold Reader.window at failed
      split at failed
      · cases failed
      · next short =>
        cases failed
        exact .inr (tooShort_faultIn read short)
    · cases none
  · intro id bits before due
    obtain ⟨rfl, rfl⟩ := due
    exact ⟨rfl, id, rfl⟩

end Reader.Blames

/-- What is read of a payload says something, whether or not it is all of the payload. -/
theorem Reader.exists_spelledBy_of_contents {kind : SectionKind} {c c' : Cursor} {said : Contents}
    (h : Reader.contents kind c = .ok (said, c')) :
    ∃ taken, c.window = taken ++ c'.window ∧ said.SpelledBy taken kind := by
  have accepted {S : Spelling Contents} (accepts : Accepts (Reader.contents kind) S) :
      ∃ taken, c.window = taken ++ c'.window ∧ S said taken := by
    obtain ⟨taken, spelled, window, _⟩ := (accepts _ _ _).1 h
    exact ⟨taken, window, spelled⟩
  -- where the rest is passed over, all of the payload is used up
  have whole (done : c'.window = []) :
      ∃ taken, c.window = taken ++ c'.window ∧ said.SpelledBy taken kind :=
    ⟨c.window, by rw [done, List.append_nil], Reader.contents_used_up_iff.1 ⟨c', h, done⟩⟩
  have passed {α : Type} {a b : α} {c₁ c₂ : Cursor}
      (h : (skipRest >>= fun _ => pure a : Reader α) c₁ = .ok (b, c₂)) : c₂.window = [] := by
    cases h
    simp [Cursor.advance, Cursor.remaining]
  cases kind with
  | signatures => exact accepted (Accepts.signature.vector.map Contents.signatures)
  | imports => exact accepted (Accepts.importEntry.vector.map Contents.imports)
  | functions => exact accepted (Accepts.u32.vector.map Contents.functions)
  | tables => exact accepted (Accepts.table.vector.map Contents.tables)
  | memories => exact accepted (Accepts.limits.vector.map Contents.memories)
  | exports => exact accepted (Accepts.exportEntry.vector.map Contents.exports)
  | start | elements | data | dataCount => exact whole (passed h)
  | custom =>
    obtain ⟨_, _, _, h⟩ := bind_eq_ok_iff.1 h
    exact whole (passed h)
  | globals | code =>
    obtain ⟨_, _, h, last⟩ := bind_eq_ok_iff.1 h
    obtain ⟨_, rfl⟩ := pure_eq_ok_iff.1 last
    obtain ⟨_, _, _, h⟩ := bind_eq_ok_iff.1 h
    exact whole (passed h)

/-! ## Sections in their places -/

theorem Spelling.Items.snoc {S : Spelling α} {a : α} {items : List α} {front back : Bytes}
    (row : Items S items front) (last : S a back) : Items S (items ++ [a]) (front ++ back) := by
  induction row with
  | nil => simpa using Items.cons last .nil
  | cons first _ ih =>
    rw [List.append_assoc]
    exact .cons first ih

theorem SectionKind.ofId?_eq_none_iff {id : UInt8} : ofId? id = none ↔ 12 < id := by
  unfold ofId?
  rw [List.getElem?_eq_none_iff, UInt8.lt_iff_toNat_lt]
  rfl

namespace Module

/-- The id of a section stands where it starts. -/
theorem SectionAt.head {binary : Bytes} {earlier : List RawSection} {s : RawSection}
    {offset inner : Nat} (h : SectionAt binary earlier s offset inner) :
    binary[offset]? = some s.id := by
  obtain ⟨front, size, behind, rfl, _, _, rfl, _⟩ := h
  rw [← List.append_assoc, List.getElem?_append_right (Nat.le_refl _), Nat.sub_self]
  rfl

/-- What is at fault in the payload of a section is at fault in the binary. -/
theorem SectionAt.locatedIn {binary : Bytes} {earlier : List RawSection} {s : RawSection}
    {offset inner : Nat} {kind : SectionKind} {e : FormatError}
    (h : SectionAt binary earlier s offset inner) (known : SectionKind.id kind = s.id)
    (fault : e.FaultIn (Contents.IntegerAfter kind) ⟨inner, s.payload⟩) : e.LocatedIn binary := by
  have place := h
  obtain ⟨front, size, behind, split, _, _, rfl, rfl⟩ := place
  have whole : binary = (header ++ front ++ s.id :: size) ++ (s.payload ++ behind) := by
    rw [split]
    simp only [List.append_assoc, List.cons_append]
  refine fault.locatedIn whole ?_ (.payload h) (Nat.le_refl _)
    fun bits before rest due parts => .payload h known parts due rfl
  simp only [List.length_append, List.length_cons]
  omega

end Module

theorem Frame.locatedIn_of_contents {binary : Bytes} {earlier : List RawSection} {f : Frame}
    {kind : SectionKind} {e : FormatError}
    (place : Module.SectionAt binary earlier ⟨f.id, f.payload.window⟩ f.offset f.payload.offset)
    (known : kind.id = f.id) (h : f.contents kind = .error e) : e.LocatedIn binary := by
  unfold Frame.contents at h
  rcases Outcome.bind_eq_error_iff.1 h with failed | ⟨⟨said, rest⟩, run, h⟩
  · exact place.locatedIn known (Reader.Blames.contents kind _ e failed)
  rcases Outcome.bind_eq_error_iff.1 h with failed | ⟨_, _, none⟩
  · obtain ⟨left, rfl⟩ := Outcome.require_eq_error_iff.1 failed
    obtain ⟨taken, window, spelled⟩ := Reader.exists_spelledBy_of_contents run
    have size : f.size = taken.length + rest.remaining := by
      unfold Frame.size Cursor.remaining
      rw [window, List.length_append]
    have consumed : f.size - rest.remaining = taken.length := by
      rw [size, Nat.add_sub_cancel]
    refine ⟨by omega, earlier, _, _, _, place, rfl, rfl, kind, said, known, ?_⟩
    rw [consumed, window, List.take_left]
    exact spelled
  · cases none

namespace Draft

theorem Run.snoc {d d₁ d₂ : Draft} {all : List RawSection} {s : RawSection} (run : Run d all d₁)
    (last : Step d₁ s d₂) : Run d (all ++ [s]) d₂ := by
  induction run with
  | nil => exact .cons last .nil
  | cons step _ ih => exact .cons step (ih last)

/-- The rank that a run arrives at is that of one of its sections. -/
theorem Run.exists_lastRank {d d' : Draft} {all : List RawSection} (run : Run d all d') :
    d'.lastRank = d.lastRank ∨ ∃ s ∈ all, d'.lastRank ∈ s.rank? := by
  induction run with
  | nil => exact .inl rfl
  | @cons d _ d₂ s _ step _ ih =>
    rcases ih with same | ⟨t, ht, rank⟩
    · obtain ⟨kind, said, id, _, _, rfl⟩ := step
      rw [add_lastRank] at same
      cases hr : kind.rank? with
      | none =>
        rw [hr] at same
        exact .inl same
      | some rank =>
        rw [hr] at same
        refine .inr ⟨s, List.mem_cons_self, ?_⟩
        rw [RawSection.rank?, ← id, SectionKind.ofId?_id, same]
        exact hr
    · exact .inr ⟨t, List.mem_cons_of_mem _ ht, rank⟩

theorem locatedIn_of_accept {binary : Bytes} {earlier : List RawSection} {d : Draft} {f : Frame}
    {e : FormatError}
    (place : Module.SectionAt binary earlier ⟨f.id, f.payload.window⟩ f.offset f.payload.offset)
    (run : Run {} earlier d) (h : d.accept f = .error e) : e.LocatedIn binary := by
  unfold accept at h
  split at h
  · next unknown =>
    cases h
    exact ⟨place.head, SectionKind.ofId?_eq_none_iff.1 unknown, earlier, _, _, place, rfl⟩
  · next kind known =>
    rcases Outcome.bind_eq_error_iff.1 h with failed | ⟨_, _, none⟩
    · obtain ⟨early, rfl⟩ := Outcome.require_eq_error_iff.1 failed
      obtain ⟨rank, early⟩ := Classical.not_forall.1 early
      obtain ⟨hr, early⟩ := Classical.not_imp.1 early
      have passed : rank ≤ d.lastRank := Nat.not_lt.1 early
      refine ⟨place.head, earlier, _, _, rank, place, rfl, ?_, ?_⟩
      · rw [RawSection.rank?, known]
        exact hr
      · -- ranks start at one, so the last one is not that of the start
        rcases run.exists_lastRank with start | ⟨t, ht, last⟩
        · have positive := (RawSection.drop_mandated hr).1
          rw [start] at passed
          exact absurd passed (Nat.not_le.2 positive)
        · exact ⟨t, ht, _, last, passed⟩
    · cases none

/-- The errors of sections are located, if the sections in front of them have been read. -/
theorem locatedIn_of_sections {binary front : Bytes} {earlier : List RawSection} {d : Draft}
    {c : Cursor} {e : FormatError} (split : binary = Module.header ++ (front ++ c.window))
    (offset : c.offset = (Module.header ++ front).length)
    (spelled : Spelling.Items RawSection.SpelledBy earlier front) (run : Run {} earlier d)
    (h : d.sections c = .error e) : e.LocatedIn binary := by
  -- induction on what is left to read; each section read is one more that came before
  generalize size : c.remaining = n
  induction n using Nat.strongRecOn generalizing d c front earlier with
  | ind n ih =>
    have some : c.window ≠ [] := by
      intro done
      rw [sections_of_end done] at h
      cases h
    rw [sections_eq_bind some] at h
    rcases Outcome.bind_eq_error_iff.1 h with failed | ⟨⟨f, rest⟩, hf, h⟩
    · have whole : binary = (Module.header ++ front) ++ (c.window ++ []) := by
        rw [split, List.append_nil, List.append_assoc]
      have window : Module.IsWindow binary 0 (c.offset + c.window.length) := by
        have stop : c.offset + c.window.length = binary.length := by
          rw [split, offset]
          simp only [List.length_append, Nat.add_assoc]
        rw [stop]
        exact .whole
      refine (Reader.Blames.frame c e failed).locatedIn whole offset window (Nat.zero_le _) ?_
      intro bits before rest due parts
      obtain ⟨rfl, id, rfl⟩ := due
      rw [parts] at split
      exact .size split spelled (by rw [offset, List.length_singleton])
    · obtain ⟨width, hw, window, start, inner, behind⟩ := Reader.frame_eq_ok_iff.1 hf
      have place : Module.SectionAt binary earlier ⟨f.id, f.payload.window⟩ f.offset
          f.payload.offset :=
        ⟨front, width, rest.window, by rw [split, window], spelled, hw, by rw [start, offset],
          by rw [inner, start, Nat.add_assoc]⟩
      rcases Outcome.bind_eq_error_iff.1 h with failed | ⟨d₁, hs, h⟩
      · rcases Outcome.bind_eq_error_iff.1 failed with failed | ⟨kind, known, failed⟩
        · exact locatedIn_of_accept place run failed
        rcases Outcome.bind_eq_error_iff.1 failed with failed | ⟨_, _, none⟩
        · exact Frame.locatedIn_of_contents place (accept_eq_ok_iff.1 known).1 failed
        · cases none
      · have shorter := Reader.Consumes.frame _ _ _ hf
        have framed : RawSection.SpelledBy ⟨f.id, f.payload.window⟩
            (f.id :: (width ++ f.payload.window)) := ⟨width, hw, rfl⟩
        refine ih rest.remaining (by omega) ?_ ?_ (spelled.snoc framed)
          (run.snoc (step_eq_ok_iff.1 hs)) h rfl
        · rw [split, window]
          simp only [List.append_assoc, List.cons_append]
        · rw [behind, inner, offset]
          simp only [List.length_append, List.length_cons]
          omega

end Draft

/-! ## The header -/

theorem littleEndian_lt (bytes : Bytes) : littleEndian bytes < 256 ^ bytes.length := by
  induction bytes with
  | nil => exact Nat.one_pos
  | cons b bytes ih =>
    have small := b.toNat_lt
    change b.toNat + 256 * littleEndian bytes < 256 ^ (bytes.length + 1)
    rw [Nat.pow_succ]
    omega

/-- The first word of a binary is quoted in eight digits. -/
theorem FormatError.locatedIn_of_wrong_magic {binary : Bytes} (long : 4 ≤ binary.length)
    (wrong : binary.take 4 ≠ Module.header.take 4) :
    (badMagic (binary.take 4)).LocatedIn binary := by
  refine ⟨long, rfl, wrong, (Hex.encode (binary.take 4)).toList, ?_,
    fun _ => Hex.isDigit_of_mem_encode, Hex.decode?_encode _, ?_⟩
  · rw [Hex.length_encode, List.length_take, Nat.min_eq_left long]
  · rw [String.ofList_toList]
    rfl

/-- A word of the header that is not there in full. -/
theorem FormatError.locatedIn_of_short_word {binary : Bytes} {c : Cursor}
    (place : c.offset = 0 ∨ c.offset = 4) (stop : c.offset + c.remaining = binary.length)
    (short : c.remaining < 4) : (c.tooShort 4).LocatedIn binary :=
  ⟨by omega, by omega, 0, binary.length, 4, .whole, Nat.zero_le _, by omega, Nat.le_refl _,
    .inr (.inr ⟨rfl, place⟩), by omega⟩

theorem Reader.locatedIn_of_header {binary : Bytes} {e : FormatError}
    (h : Reader.header (.start binary) = .error e) : e.LocatedIn binary := by
  rcases bind_eq_error_iff.1 h with failed | ⟨magic, c₁, first, h⟩
  · obtain ⟨short, rfl⟩ := bytes_eq_error_iff.1 failed
    exact FormatError.locatedIn_of_short_word (.inl rfl) (Nat.zero_add _) short
  obtain ⟨_, ⟨same, four⟩, split, offset⟩ := (Accepts.bytes 4 _ _ _).1 first
  rw [same] at split offset
  replace split : binary = magic ++ c₁.window := split
  have taken : binary.take 4 = magic := by rw [split, ← four, List.take_left]
  split at h
  · next wrong =>
    cases h
    rw [← taken] at wrong ⊢
    refine FormatError.locatedIn_of_wrong_magic ?_ wrong
    rw [split, List.length_append]
    omega
  next right =>
  rcases bind_eq_error_iff.1 h with failed | ⟨version, c₂, second, h⟩
  · rcases bind_eq_error_iff.1 failed with failed | ⟨_, _, _, none⟩
    · obtain ⟨short, rfl⟩ := bytes_eq_error_iff.1 failed
      refine FormatError.locatedIn_of_short_word (.inr ?_) ?_ short
      · rw [offset, four]
        rfl
      · rw [offset, split, List.length_append]
        exact congrArg (· + c₁.window.length) (Nat.zero_add _)
    · cases none
  obtain ⟨raw, ⟨four', value⟩, split', _⟩ := (Accepts.word _ _ _).1 second
  split at h
  · next wrong =>
    cases h
    refine ⟨?_, taken.trans (Decidable.not_not.1 right), ?_, wrong⟩
    · rw [split, split', List.length_append, List.length_append]
      omega
    · have bytes : (binary.drop 4).take 4 = raw := by
        rw [split, ← four, List.drop_left, split', four, ← four', List.take_left]
      have fits : littleEndian raw < 2 ^ 32 := by
        have := littleEndian_lt raw
        rwa [four'] at this
      rw [bytes, value]
      exact UInt32.toNat_ofNat_of_lt' fits
  · cases h

/-! ## Decoding -/

namespace Module

/-- **Errors point at what is wrong.** Whatever the error of a binary, what it says stands at the
offset that it names, counted from the start of the binary. -/
theorem decode_error_located {binary : Bytes} {e : FormatError} (h : decode binary = .error e) :
    e.LocatedIn binary := by
  unfold decode at h
  rcases Outcome.bind_eq_error_iff.1 h with failed | ⟨⟨_, c⟩, first, h⟩
  · exact Reader.locatedIn_of_header failed
  obtain ⟨_, rfl, split, offset⟩ := (Reader.Accepts.header _ _ _).1 first
  replace split : binary = header ++ c.window := split
  rcases Outcome.bind_eq_error_iff.1 h with failed | ⟨d, run, h⟩
  · have whole : binary = header ++ ([] ++ c.window) := split
    exact Draft.locatedIn_of_sections whole (offset.trans (Nat.zero_add _)) .nil .nil failed
  obtain ⟨all, spelled, run⟩ := Draft.sections_eq_ok_iff.1 run
  rcases Outcome.bind_eq_error_iff.1 h with failed | ⟨_, _, none⟩
  · have resolved : ∃ all body d, binary = header ++ body ∧
        Spelling.Items RawSection.SpelledBy all body ∧ Draft.Run {} all d ∧
        d.interface.resolve d.bodies = .error e := ⟨all, _, d, split, spelled, run, failed⟩
    cases unresolved_of_resolve failed with
    | signature | exportIndex | bodies => exact resolved
  · cases none

/-- A memory with 64-bit bounds, the first of which has ten bytes that all say that another
follows. -/
theorem decode_error_located_memory :
    decode (header ++ [0x05, 0x0c, 0x01, 0x04] ++ List.replicate 10 0x80) =
        .error (.integerTooLong 12) ∧
      (FormatError.integerTooLong 12).LocatedIn
        (header ++ [0x05, 0x0c, 0x01, 0x04] ++ List.replicate 10 0x80) := by
  have failed : decode (header ++ [0x05, 0x0c, 0x01, 0x04] ++ List.replicate 10 0x80) =
      .error (.integerTooLong 12) := by cbv
  exact ⟨failed, decode_error_located failed⟩

end Module

end WasmBindings
