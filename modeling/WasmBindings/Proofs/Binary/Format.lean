import WasmBindings.Proofs.Binary.Section
import WasmBindings.Proofs.Module.Consistent

/-!
# The format of modules

`Module.SpelledBy` says which binaries spell which modules, without saying how a binary is read: the
header, sections framed one after the other, an order on the ids of those that are not custom, and
for each part of the module what its section has to say. Nothing in it refers to the reader.
-/

namespace WasmBindings

/-- The magic bytes and version 1, least significant byte first. -/
def Module.header : Bytes := [0x00, 0x61, 0x73, 0x6d] ++ [0x01, 0x00, 0x00, 0x00]

/-- The ids of the sections that have a place, in the order of their places. -/
def RawSection.mandated : List UInt8 := [1, 2, 3, 4, 5, 6, 7, 8, 9, 12, 10, 11]

/-- The ids of those sections that have a place; custom sections have none. -/
def RawSection.placed (all : List RawSection) : List UInt8 :=
  (all.map (·.id)).filter (· ≠ 0)

/-- What the sections of one id say: some value, and the one for its absence if there is none. -/
structure RawSection.Says (all : List RawSection) (id : UInt8) (S : Spelling α)
    (absent value : α) : Prop where
  present : ∀ s ∈ all, s.id = id → S value s.payload
  missing : (∀ s ∈ all, s.id ≠ id) → value = absent

namespace Module

/-- What a row of sections has to be to describe a module. -/
structure DescribedBy (m : Module) (all : List RawSection) : Prop where
  /-- All ids are known, and none but that of custom sections comes twice or out of order. -/
  order : (RawSection.placed all).Sublist RawSection.mandated
  /-- Custom sections start with a name. -/
  custom : ∀ s ∈ all, s.id = 0 → ∃ text name rest, Spelling.Name text name ∧
    s.payload = name ++ rest
  signatures : RawSection.Says all 1 (Spelling.Vector Signature.SpelledBy) [] m.signatures
  imports : RawSection.Says all 2 (Spelling.Vector Import.SpelledBy) [] m.imports
  functions : RawSection.Says all 3 (Spelling.Vector Spelling.U32) [] m.functions
  tables : RawSection.Says all 4 (Spelling.Vector TableType.SpelledBy) [] m.tables
  memories : RawSection.Says all 5 (Spelling.Vector Limits.SpelledBy) [] m.memories
  globals : RawSection.Says all 6 Spelling.Leading 0 m.globalCount.toNat
  exports : RawSection.Says all 7 (Spelling.Vector Export.SpelledBy) [] m.exports
  /-- There are as many bodies as functions. -/
  bodies : RawSection.Says all 10 Spelling.Leading 0 m.functions.length

/-- The binaries that spell a module: a header and then sections that describe it. -/
def SpelledBy (m : Module) (binary : Bytes) : Prop :=
  ∃ all body, binary = header ++ body ∧ Spelling.Items RawSection.SpelledBy all body ∧
    m.DescribedBy all ∧ m.Consistent

end Module

/-! ## Places -/

namespace RawSection

theorem placed_cons_of_eq {s : RawSection} {rest : List RawSection} (h : s.id = 0) :
    placed (s :: rest) = placed rest := by
  simp [placed, h]

theorem placed_cons_of_ne {s : RawSection} {rest : List RawSection} (h : s.id ≠ 0) :
    placed (s :: rest) = s.id :: placed rest := by
  simp [placed, h]

/-- The rank of a kind is its place among the mandated ids, counted from one. -/
theorem drop_mandated {kind : SectionKind} {rank : Nat} (h : kind.rank? = some rank) :
    0 < rank ∧ mandated.drop (rank - 1) = kind.id :: mandated.drop rank := by
  cases kind <;> cases h <;> exact ⟨by decide, rfl⟩

theorem not_mem_drop_mandated {kind : SectionKind} {rank : Nat} (h : kind.rank? = some rank) :
    kind.id ∉ mandated.drop rank := by
  cases kind <;> cases h <;> decide

theorem exists_kind_of_mandated {place : Nat} {id : UInt8} (h : mandated[place]? = some id) :
    ∃ kind : SectionKind, kind.id = id ∧ kind.rank? = some (place + 1) := by
  have cover : ∀ p : Fin 12, ∃ kind ∈ SectionKind.all,
      mandated[p.val]? = some kind.id ∧ kind.rank? = some (p.val + 1) := by
    decide
  have small : place < 12 := (List.getElem?_eq_some_iff.1 h).1
  obtain ⟨kind, _, same, rank⟩ := cover ⟨place, small⟩
  rw [h, Option.some.injEq] at same
  exact ⟨kind, same.symm, rank⟩

/-- The first of some ids in order has a place, and the others come behind it. -/
theorem exists_kind_of_cons_sublist {id : UInt8} {ids : List UInt8} {passed : Nat}
    (h : (id :: ids).Sublist (mandated.drop passed)) :
    ∃ kind : SectionKind, ∃ rank, kind.id = id ∧ kind.rank? = some rank ∧ passed < rank ∧
      ids.Sublist (mandated.drop rank) := by
  obtain ⟨front, back, split, hid, hids⟩ := List.cons_sublist_iff.1 h
  obtain ⟨before, behind, rfl⟩ := List.append_of_mem hid
  rw [List.append_assoc, List.cons_append] at split
  -- the first id stands at some place behind those passed; its kind has that rank
  have here : mandated[passed + before.length]? = some id := by
    rw [← List.getElem?_drop, split, List.getElem?_append_right (Nat.le_refl _), Nat.sub_self]
    rfl
  obtain ⟨kind, same, rank⟩ := exists_kind_of_mandated here
  refine ⟨kind, _, same, rank, by omega, hids.trans ?_⟩
  rw [Nat.add_assoc, ← List.drop_drop, split, ← List.drop_drop, List.drop_left]
  exact List.sublist_append_right behind back

end RawSection

end WasmBindings
