import Mathlib
import WasmBindings.Proofs.Binary.Decode

/-!
# Counts are paid for in bytes

A count that a binary declares costs a few bytes, however large it is. What is read because of it
costs more: every entry of a vector takes at least one byte, and a name as many as it is long. So
the weight of what a section says is at most the size of its payload
(`Contents.SpelledBy.weight_le`), a run over sections gathers no more weight than they have bytes
(`Draft.Run.weight_le`), and a module is never larger than its binary.

The same holds on the way. A vector cannot be read to its end if it declares more items than there
are bytes left, and no more items than that are read before it fails (`Reader.gathered`). The loop
over the sections takes at least two bytes in each turn, so it ends (`Draft.exists_turns`).
-/

namespace WasmBindings

/-! ## Weights -/

/-- The number of value types in a signature. -/
def Signature.weight (s : Signature) : Nat := s.parameters.length + s.results.length

/-- The number of bytes in the names of an import. -/
def Import.weight (i : Import) : Nat :=
  (Utf8.encode i.moduleName).length + (Utf8.encode i.name).length

/-- The number of bytes in the name of an export. -/
def Export.weight (e : Export) : Nat := (Utf8.encode e.name).length

/-- The weight of a list: one for each entry, and what the entries weigh themselves. -/
def rowWeight (weight : α → Nat) (items : List α) : Nat :=
  items.length + (items.map weight).sum

/-- The number of entries in all lists of a module, of value types in its signatures, and of bytes
in its names. -/
def Module.weight (m : Module) : Nat :=
  m.signatures.length + m.imports.length + m.functions.length + m.tables.length +
    m.memories.length + m.exports.length + (m.signatures.map Signature.weight).sum +
    (m.imports.map Import.weight).sum + (m.exports.map Export.weight).sum

/-- The part of a module's weight that a section is about. -/
def Contents.weight : Contents → Nat
  | .signatures items => rowWeight Signature.weight items
  | .imports items => rowWeight Import.weight items
  | .functions items => items.length
  | .tables items => items.length
  | .memories items => items.length
  | .exports items => rowWeight Export.weight items
  | .custom _ | .globals _ | .code _ | .skipped => 0

/-! ## What spells something is as long as it weighs -/

namespace Spelling

/-- Whatever is spelled takes a byte, and as many more as it weighs. -/
def Pays (S : Spelling α) (weight : α → Nat) : Prop :=
  ∀ a bytes, S a bytes → weight a + 1 ≤ bytes.length

variable {S : Spelling α} {weight : α → Nat}

theorem Pays.items (pays : Pays S weight) {items : List α} {bytes : Bytes}
    (spelled : Items S items bytes) : rowWeight weight items ≤ bytes.length := by
  unfold rowWeight
  induction spelled with
  | nil => exact Nat.le_refl 0
  | @cons a items front back first _ ih =>
    have paid := pays a front first
    rw [List.length_cons, List.map_cons, List.sum_cons, List.length_append]
    omega

theorem pays_integer {bits n : Nat} {bytes : Bytes} (spelled : Leb128.SpelledBy bits n bytes) :
    1 ≤ bytes.length := by
  obtain ⟨front, last, rfl, _⟩ := spelled.marked
  rw [List.length_append, List.length_singleton]
  exact Nat.le_add_left 1 _

/-- A vector takes a byte for its count. -/
theorem Pays.vector (pays : Pays S weight) : Pays (Vector S) (rowWeight weight) := by
  intro items bytes spelled
  obtain ⟨count, body, size, row, rfl⟩ := spelled
  have paid := pays.items row
  have some := pays_integer size
  rw [List.length_append]
  omega

/-- A list of entries that are not weighed is as long as its weight. -/
theorem rowWeight_zero (items : List α) : rowWeight (fun _ => 0) items = items.length := by
  rw [rowWeight, List.map_const', List.sum_replicate_nat, Nat.mul_zero, Nat.add_zero]

/-- Entries that take a byte each are paid for by their vector. -/
theorem length_le_of_vector {items : List α} {bytes : Bytes} (pays : Pays S fun _ => 0)
    (spelled : Vector S items bytes) : items.length ≤ bytes.length := by
  have paid := pays.vector items bytes spelled
  rw [rowWeight_zero] at paid
  omega

theorem pays_u32 : Pays U32 fun _ => 0 := fun _ _ spelled => by
  have := pays_integer spelled
  omega

/-- A name takes a byte for its size. -/
theorem length_lt_of_name {text : String} {bytes : Bytes} (spelled : Name text bytes) :
    (Utf8.encode text).length < bytes.length := by
  obtain ⟨size, number, rfl⟩ := spelled
  have some := pays_integer number
  rw [List.length_append]
  omega

theorem pays_valueType : Pays ValueType.SpelledBy fun _ => 0 := by
  intro t bytes spelled
  obtain ⟨_, rfl⟩ := spelled
  exact Nat.le_refl 1

theorem pays_signature : Pays Signature.SpelledBy Signature.weight := by
  intro s bytes spelled
  obtain ⟨parameters, results, first, second, rfl⟩ := spelled
  have paid := length_le_of_vector pays_valueType first
  have paid' := length_le_of_vector pays_valueType second
  rw [Signature.weight, List.length_cons, List.length_append]
  omega

theorem pays_limits : Pays Limits.SpelledBy fun _ => 0 := by
  intro l bytes spelled
  cases spelled with
  | unbounded => exact Nat.le_add_left 1 _
  | bounded => exact Nat.le_add_left 1 _

theorem pays_table : Pays TableType.SpelledBy fun _ => 0 := by
  intro t bytes spelled
  obtain ⟨limits, _, rfl⟩ := spelled
  exact Nat.le_add_left 1 _

theorem pays_import : Pays Import.SpelledBy Import.weight := by
  intro i bytes spelled
  obtain ⟨moduleName, name, kind, first, second, _, rfl⟩ := spelled
  have paid := length_lt_of_name first
  have paid' := length_lt_of_name second
  rw [Import.weight, List.length_append, List.length_append]
  omega

theorem pays_export : Pays Export.SpelledBy Export.weight := by
  intro e bytes spelled
  obtain ⟨name, index, first, _, rfl⟩ := spelled
  have paid := length_lt_of_name first
  rw [Export.weight, List.length_append, List.length_cons]
  omega

end Spelling

/-- A section says no more than its payload pays for. -/
theorem Contents.SpelledBy.weight_le {said : Contents} {payload : Bytes} {kind : SectionKind}
    (spelled : said.SpelledBy payload kind) : said.weight ≤ payload.length := by
  cases kind with
  | custom =>
    obtain ⟨_, _, _, _, _, rfl⟩ := spelled
    exact Nat.zero_le _
  | signatures =>
    obtain ⟨items, spelled, rfl⟩ := spelled
    exact Nat.le_of_succ_le (Spelling.pays_signature.vector items payload spelled)
  | imports =>
    obtain ⟨items, spelled, rfl⟩ := spelled
    exact Nat.le_of_succ_le (Spelling.pays_import.vector items payload spelled)
  | functions =>
    obtain ⟨items, spelled, rfl⟩ := spelled
    exact Spelling.length_le_of_vector Spelling.pays_u32 spelled
  | tables =>
    obtain ⟨items, spelled, rfl⟩ := spelled
    exact Spelling.length_le_of_vector Spelling.pays_table spelled
  | memories =>
    obtain ⟨items, spelled, rfl⟩ := spelled
    exact Spelling.length_le_of_vector Spelling.pays_limits spelled
  | exports =>
    obtain ⟨items, spelled, rfl⟩ := spelled
    exact Nat.le_of_succ_le (Spelling.pays_export.vector items payload spelled)
  | globals | code =>
    obtain ⟨_, _, rfl⟩ := spelled
    exact Nat.zero_le _
  | start | elements | data | dataCount =>
    obtain rfl := spelled
    exact Nat.zero_le _

/-! ## Modules -/

namespace Draft

/-- What a section says takes the place of what was there. -/
theorem weight_add_le (d : Draft) (kind : SectionKind) (said : Contents) :
    (d.add kind said).interface.weight ≤ d.interface.weight + said.weight := by
  unfold Module.weight Contents.weight rowWeight
  cases said <;> (dsimp only [add]; omega)

theorem Step.weight_le {d d' : Draft} {s : RawSection} (step : Step d s d') :
    d'.interface.weight ≤ d.interface.weight + s.payload.length := by
  obtain ⟨kind, said, _, _, spelled, rfl⟩ := step
  exact Nat.le_trans (weight_add_le d kind said) (Nat.add_le_add_left spelled.weight_le _)

/-- A run gathers no more than its sections have bytes. -/
theorem Run.weight_le {d d' : Draft} {all : List RawSection} {body : Bytes} (run : Run d all d')
    (spelled : Spelling.Items RawSection.SpelledBy all body) :
    d'.interface.weight ≤ d.interface.weight + body.length := by
  induction run generalizing body with
  | nil => exact Nat.le_add_right _ _
  | cons step _ ih =>
    cases spelled with
    | cons first rest =>
      have paid := step.weight_le
      have others := ih rest
      obtain ⟨size, _, rfl⟩ := first
      rw [List.length_append, List.length_cons, List.length_append]
      omega

end Draft

theorem Module.weight_le_of_decode {m : Module} {binary : Bytes} (h : decode binary = .ok m) :
    m.weight + 8 ≤ binary.length := by
  obtain ⟨body, all, d, rfl, spelled, run, finish⟩ := decode_eq_ok_iff_run.1 h
  obtain ⟨rfl, _⟩ := Draft.finish_eq_ok_iff.1 finish
  have paid := run.weight_le spelled
  have none : Module.weight ({} : Draft).interface = 0 := rfl
  rw [List.length_append, show header.length = 8 from rfl]
  omega

/-! ## Vectors -/

namespace Reader

/-- The items that are read when a number of them is asked for: all of them, or those in front of
the first that fails. -/
def gathered (item : Reader α) : Nat → Cursor → List α
  | 0, _ => []
  | count + 1, c =>
    match item c with
    | .ok (a, rest) => a :: gathered item count rest
    | .error _ => []

theorem times_succ (item : Reader α) (count : Nat) (c : Cursor) :
    times item (count + 1) c = item c >>= fun p => times item count p.2 >>= fun q =>
      .ok (p.1 :: q.1, q.2) := rfl

/-- All items were gathered if reading them succeeds, and fewer if it fails. -/
theorem times_gathers (item : Reader α) (count : Nat) (c : Cursor) :
    (∃ rest, times item count c = .ok (gathered item count c, rest) ∧
      (gathered item count c).length = count) ∨
    ∃ e, times item count c = .error e ∧ (gathered item count c).length < count := by
  induction count generalizing c with
  | zero => exact .inl ⟨c, rfl, rfl⟩
  | succ count ih =>
    rw [times_succ, gathered]
    cases first : item c with
    | error e => exact .inr ⟨e, rfl, Nat.succ_pos count⟩
    | ok p =>
      dsimp only [bind, Except.bind]
      rcases ih p.2 with ⟨rest, run, length⟩ | ⟨e, run, short⟩
      · rw [run]
        exact .inl ⟨rest, rfl, congrArg (· + 1) length⟩
      · rw [run]
        exact .inr ⟨e, rfl, Nat.succ_lt_succ short⟩

/-- Each item that is gathered has taken a byte. -/
theorem length_gathered_le {item : Reader α} (consumes : item.Consumes 1) (count : Nat)
    (c : Cursor) : (gathered item count c).length ≤ c.remaining := by
  induction count generalizing c with
  | zero => exact Nat.zero_le _
  | succ count ih =>
    unfold gathered
    cases first : item c with
    | error e => exact Nat.zero_le _
    | ok p =>
      have taken := consumes c p.1 p.2 first
      have others := ih p.2
      rw [List.length_cons]
      omega

/-- Behind its count, a vector is a row of items. -/
theorem vector_eq_times {item : Reader α} {c c₁ : Cursor} {count : UInt32}
    (first : u32 c = .ok (count, c₁)) : vector item c = times item count.toNat c₁ := by
  change (u32 c >>= fun p => times item p.1.toNat p.2) = _
  rw [first]
  rfl

end Reader

/-! ## The loop over the sections -/

namespace Draft

/-- A turn of the loop: a frame is cut off what is left, and taken in. -/
inductive Turn : Draft × Cursor → Draft × Cursor → Prop
  | turn {d d' : Draft} {c rest : Cursor} {f : Frame} (more : c.window ≠ [])
      (cut : Reader.frame c = .ok (f, rest)) (taken : d.step f = .ok d') : Turn (d, c) (d', rest)

/-- A number of turns, one after the other. -/
inductive Turns : Nat → Draft × Cursor → Draft × Cursor → Prop
  | nil {s : Draft × Cursor} : Turns 0 s s
  | cons {n : Nat} {s t u : Draft × Cursor} : Turn s t → Turns n t u → Turns (n + 1) s u

/-- No turn can be made here: all is read, or the next section has an error. The outcome of the
loop is then known. -/
inductive Stops : Draft × Cursor → Except FormatError Draft → Prop
  | done {d : Draft} {c : Cursor} (none : c.window = []) : Stops (d, c) (.ok d)
  | cut {d : Draft} {c : Cursor} {e : FormatError} (more : c.window ≠ [])
      (failed : Reader.frame c = .error e) : Stops (d, c) (.error e)
  | refused {d : Draft} {c rest : Cursor} {f : Frame} {e : FormatError} (more : c.window ≠ [])
      (cut : Reader.frame c = .ok (f, rest)) (failed : d.step f = .error e) :
      Stops (d, c) (.error e)

/-- A turn takes the id and the size of a section at least. -/
theorem Turn.consumes {s t : Draft × Cursor} (turn : Turn s t) :
    t.2.remaining + 2 ≤ s.2.remaining := by
  cases turn with
  | turn _ cut _ => exact Reader.Consumes.frame _ _ _ cut

theorem Turns.consumes {n : Nat} {s t : Draft × Cursor} (turns : Turns n s t) :
    t.2.remaining + 2 * n ≤ s.2.remaining := by
  induction turns with
  | nil => exact Nat.le_refl _
  | cons turn _ ih =>
    have taken := turn.consumes
    omega

/-- The loop comes to where it stops, and has the outcome that it has there. -/
theorem exists_turns (d : Draft) (c : Cursor) :
    ∃ n t, Turns n (d, c) t ∧ Stops t (d.sections c) := by
  -- induction on what is left to read, of which each turn takes some
  generalize size : c.remaining = left
  induction left using Nat.strongRecOn generalizing d c with
  | ind left ih =>
    by_cases done : c.window = []
    · rw [sections_of_end done]
      exact ⟨0, _, .nil, .done done⟩
    rw [sections_eq_bind done]
    cases cut : Reader.frame c with
    | error e => exact ⟨0, _, .nil, .cut done cut⟩
    | ok p =>
      obtain ⟨f, rest⟩ := p
      change ∃ n t, _ ∧ Stops t (d.step f >>= fun d₁ => d₁.sections rest)
      cases taken : d.step f with
      | error e => exact ⟨0, _, .nil, .refused done cut taken⟩
      | ok d₁ =>
        have turn : Turn (d, c) (d₁, rest) := .turn done cut taken
        have shorter := turn.consumes
        dsimp only at shorter
        obtain ⟨n, t, turns, stops⟩ := ih rest.remaining (by omega) d₁ rest rfl
        exact ⟨n + 1, t, .cons turn turns, stops⟩

end Draft

/-- **No input is amplified.** A module weighs no more than its binary has bytes behind the header;
a vector of items that take bytes is not read beyond the bytes that are left, whatever it declares;
and the loop over the sections takes two bytes in each turn until it stops. -/
theorem counts_are_paid_for :
    (∀ binary m, Module.decode binary = .ok m → m.weight + 8 ≤ binary.length) ∧
    (∀ (α : Type) (item : Reader α), item.Consumes 1 → ∀ c count c₁,
      Reader.u32 c = .ok (count, c₁) →
      (Reader.gathered item count.toNat c₁).length ≤ c₁.remaining ∧
      (c₁.remaining < count.toNat → ∃ e, Reader.vector item c = .error e) ∧
      ∀ items rest, Reader.vector item c = .ok (items, rest) →
        items = Reader.gathered item count.toNat c₁ ∧ items.length = count.toNat) ∧
    (∀ s t, Draft.Turn s t → t.2.remaining + 2 ≤ s.2.remaining) ∧
    ∀ d c, ∃ n t, Draft.Turns n (d, c) t ∧ 2 * n ≤ c.remaining ∧
      Draft.Stops t (d.sections c) := by
  refine ⟨fun binary m => Module.weight_le_of_decode, fun α item consumes c count c₁ first => ?_,
    fun s t => Draft.Turn.consumes, fun d c => ?_⟩
  · have most := Reader.length_gathered_le consumes count.toNat c₁
    rw [Reader.vector_eq_times first]
    rcases Reader.times_gathers item count.toNat c₁ with ⟨rest, run, length⟩ | ⟨e, run, _⟩
    · refine ⟨most, fun short => by omega, fun items rest' run' => ?_⟩
      rw [run] at run'
      cases run'
      exact ⟨rfl, length⟩
    · refine ⟨most, fun _ => ⟨e, run⟩, fun items rest' run' => ?_⟩
      rw [run] at run'
      cases run'
  · obtain ⟨n, t, turns, stops⟩ := Draft.exists_turns d c
    have taken := turns.consumes
    exact ⟨n, t, turns, by dsimp only at taken; omega, stops⟩

/-- A signature of two parameters weighs three; a vector that declares as many bytes as it can has
two of them; and a custom section with an empty name is taken in by a turn. -/
theorem counts_are_paid_for_declared :
    (∃ m, Module.decode (Module.header ++ [0x01, 0x06, 0x01, 0x60, 0x02, 0x7f, 0x7e, 0x00]) =
      .ok m ∧ m.weight = 3 ∧ m.weight + 8 ≤ 16) ∧
    (Reader.byte.Consumes 1 ∧
      Reader.u32 ⟨0, [0xff, 0xff, 0xff, 0xff, 0x0f, 0x07, 0x08]⟩ =
        .ok (4294967295, ⟨5, [0x07, 0x08]⟩) ∧
      ∃ e, Reader.vector Reader.byte ⟨0, [0xff, 0xff, 0xff, 0xff, 0x0f, 0x07, 0x08]⟩ =
        .error e) ∧
    Draft.Turn ({}, ⟨8, [0x00, 0x01, 0x00]⟩) ({}, ⟨11, []⟩) ∧ 0 + 2 ≤ 3 := by
  obtain ⟨weights, vectors, turns, _⟩ := counts_are_paid_for
  have h : Module.decode (Module.header ++ [0x01, 0x06, 0x01, 0x60, 0x02, 0x7f, 0x7e, 0x00]) =
      .ok { signatures := [⟨[.i32, .i64], []⟩] } := by cbv
  have count : Reader.u32 ⟨0, [0xff, 0xff, 0xff, 0xff, 0x0f, 0x07, 0x08]⟩ =
      .ok (4294967295, ⟨5, [0x07, 0x08]⟩) := by cbv
  have turn : Draft.Turn ({}, ⟨8, [0x00, 0x01, 0x00]⟩) ({}, ⟨11, []⟩) :=
    .turn (f := ⟨8, 0, ⟨10, [0x00]⟩⟩) (List.cons_ne_nil _ _) (by cbv) (by cbv)
  refine ⟨⟨_, h, rfl, weights _ _ h⟩, ⟨.byte, count, ?_⟩, turn, turns _ _ turn⟩
  exact (vectors UInt8 Reader.byte .byte _ _ _ count).2.1 (by decide)

end WasmBindings
