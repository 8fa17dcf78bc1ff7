import Mathlib
import WasmBindings.Module.Listing
import WasmBindings.Proofs.Binary.Format
import WasmBindings.Proofs.Text.Delimited

/-!
# The numbers of a listing

An index counts the imports of its kind first and then the local definitions, and that is how an
export names its entry: `table[1]` is the second table of the joint numbering. The listing shows the
local definitions only, in a block for each space, a line each under the heading. Functions are
numbered there by their index. Tables and memories are counted from zero within the block, so their
numbers are short of the index by as much as is imported, and an export line leads to the wrong line
or to none (`Module.listing_numbers`).

A definition is described in the terms of an import of its kind, so that a joint numbering is one
list (`Module.entities`). Places in the listing are counted in lines, as a name may contain line
breaks: every space has its part of the lines (`Module.listingLines_eq`), and a line shows one
number only (`ImportKind.number_inj`).
-/

namespace WasmBindings

/-! ## Lines -/

/-- The word for an entry of this space in a listing. -/
def IndexSpace.word : IndexSpace → String
  | .function => "func"
  | .table => "table"
  | .memory => "memory"
  | .global => "global"

namespace ImportKind

/-- What a listing says of an entry behind its word. -/
def detail : ImportKind → String
  | function signature => s!"sig={signature}"
  | table type => type.text
  | memory limits => s!"pages: {limits.text}"
  | global type => type.text

/-- What a listing says of a local definition under this number. -/
def numbered (kind : ImportKind) (number : Nat) : String :=
  s!"{kind.space.word}[{number}] {kind.detail}"

/-- The words are those of the blocks of a listing. -/
theorem numbered_eq (kind : ImportKind) (n : Nat) : kind.numbered n =
    match kind with
    | function signature => s!"func[{n}] sig={signature}"
    | table type => s!"table[{n}] {type.text}"
    | memory limits => s!"memory[{n}] pages: {limits.text}"
    | global type => s!"global[{n}] {type.text}" := by
  cases kind <;>
    simp only [numbered, detail, space, IndexSpace.word, toString, ← String.toList_inj,
      String.toList_append, String.reduceToList, List.cons_append, List.nil_append,
      List.append_assoc]

theorem toList_numbered (kind : ImportKind) (number : Nat) : (kind.numbered number).toList =
    (kind.space.word.toList ++ ['[']) ++
      (number.repr.toList ++ ']' :: (" ".toList ++ kind.detail.toList)) := by
  simp only [numbered, toString, String.toList_append, String.reduceToList, List.cons_append,
    List.nil_append, List.append_assoc]

/-- A line shows one number: it is between the brackets, and no digit is a bracket. -/
theorem number_inj {kind other : ImportKind} {n k : Nat} (space : kind.space = other.space)
    (same : kind.numbered n = other.numbered k) : n = k := by
  have digits (i : Nat) : i.repr.toList.all Char.isDigit := by
    rw [List.all_eq_true, Nat.toList_repr]
    exact fun c mem => Nat.isDigit_of_mem_toDigits (by decide) (by decide) mem
  have texts := congrArg String.toList same
  rw [toList_numbered, toList_numbered, space] at texts
  have shown := append_cons_inj_of_all (digits n) (digits k) (by decide) (by decide)
    (List.append_cancel_left texts)
  have values := congrArg (Nat.ofDigitChars 10 · 0) shown.1
  simpa [Nat.toList_repr] using values

end ImportKind

namespace Module

/-! ## The joint numbering -/

/-- The local definitions of a space, in order. Of globals only their number is kept. -/
def definitions (m : Module) : IndexSpace → List ImportKind
  | .function => m.functions.map .function
  | .table => m.tables.map .table
  | .memory => m.memories.map .memory
  | .global => []

/-- The entries of a space by their index: the imports of this kind, then the local definitions. -/
def entities (m : Module) (space : IndexSpace) : List ImportKind :=
  (m.imports.map (·.kind)).filter (·.space = space) ++ m.definitions space

variable {m : Module} {space : IndexSpace}

theorem length_definitions (known : space ≠ .global) :
    (m.definitions space).length = m.localCount space := by
  cases space with
  | global => exact absurd rfl known
  | _ => exact List.length_map _

theorem length_imported (m : Module) (space : IndexSpace) :
    ((m.imports.map (·.kind)).filter (·.space = space)).length = m.importedCount space := by
  rw [← List.countP_eq_length_filter, List.countP_map]
  rfl

theorem length_entities (known : space ≠ .global) :
    (m.entities space).length = m.spaceSize space := by
  rw [entities, List.length_append, length_imported, length_definitions known, spaceSize]

/-- Behind the imports of its kind stands the local definition of the remaining number. -/
theorem entities_importedCount_add (m : Module) (space : IndexSpace) (i : Nat) :
    (m.entities space)[m.importedCount space + i]? = (m.definitions space)[i]? := by
  rw [entities, ← length_imported, List.getElem?_append_right (Nat.le_add_right _ _),
    Nat.add_sub_cancel_left]

/-- The functions of the joint numbering are those of the queries. -/
theorem entities_function (m : Module) :
    m.entities .function = (m.importedFunctions ++ m.functions).map .function := by
  have imported : (m.imports.map (·.kind)).filter (·.space = .function) =
      m.importedFunctions.map .function := by
    unfold importedFunctions
    induction m.imports with
    | nil => rfl
    | cons i imports ih =>
      obtain ⟨_, _, kind⟩ := i
      cases kind <;> simpa [ImportKind.space, ImportKind.signature?] using ih
  rw [entities, imported, List.map_append, definitions]

theorem entities_function_index (m : Module) (index : UInt32) :
    (m.entities .function)[index.toNat]? = (m.signatureIndex? index).map .function := by
  rw [entities_function, List.getElem?_map, signatureIndex?]

/-! ## Where the listing shows what -/

/-- The heading of a space. -/
def heading (m : Module) (space : IndexSpace) : String :=
  let count := m.localCount space
  match space with
  | .function => s!"Function[{count}]:"
  | .table => s!"Table[{count}]:"
  | .memory => s!"Memory[{count}]:"
  | .global => s!"Global[{count}]"

/-- How many lines of the listing precede the heading of a space. -/
def headingLine (m : Module) : IndexSpace → Nat
  | .function => 2 + m.signatures.length + m.imports.length
  | .table => 3 + m.signatures.length + m.imports.length + m.functions.length
  | .memory => 4 + m.signatures.length + m.imports.length + m.functions.length + m.tables.length
  | .global => 5 + m.signatures.length + m.imports.length + m.functions.length + m.tables.length +
      m.memories.length

/-- The number that the listing gives to the first local definition of a space. -/
def firstNumber (m : Module) : IndexSpace → Nat
  | .function => m.importedCount .function
  | _ => 0

/-- The lines of the local definitions of a space. -/
def block (m : Module) (space : IndexSpace) : List String :=
  entryLines (fun n kind => kind.numbered n) (m.firstNumber space) (m.definitions space)

/-- What the listing says of a space. -/
def part (m : Module) (space : IndexSpace) : List String :=
  m.heading space :: m.block space

/-- The lines in front of the spaces: signatures and imports. -/
def opening (m : Module) : List String :=
  s!"Type[{m.signatures.length}]:" ::
      entryLines (fun i s => s!"type[{i}] {s.text}") 0 m.signatures ++
    s!"Import[{m.imports.length}]:" ::
      entryLines (fun i entry => s!"import[{i}] {entry.text}") 0 m.imports

/-- The lines behind the spaces: exports. -/
def closing (m : Module) : List String :=
  s!"Export[{m.exports.length}]:" :: entryLines (fun _ e => e.text) 0 m.exports

/-- The lines in front of a space. -/
def linesBefore (m : Module) : IndexSpace → List String
  | .function => m.opening
  | .table => m.opening ++ m.part .function
  | .memory => m.opening ++ m.part .function ++ m.part .table
  | .global => m.opening ++ m.part .function ++ m.part .table ++ m.part .memory

/-- The lines behind a space. -/
def linesBehind (m : Module) : IndexSpace → List String
  | .function => m.part .table ++ m.part .memory ++ m.part .global ++ m.closing
  | .table => m.part .memory ++ m.part .global ++ m.closing
  | .memory => m.part .global ++ m.closing
  | .global => m.closing

theorem getElem?_entryLines (line : Nat → α → String) (first : Nat) (items : List α) (i : Nat) :
    (entryLines line first items)[i]? = items[i]?.map fun a => " - " ++ line (first + i) a := by
  rw [entryLines, List.getElem?_map, List.getElem?_zipIdx, Option.map_map]
  rfl

theorem length_entryLines (line : Nat → α → String) (first : Nat) (items : List α) :
    (entryLines line first items).length = items.length := by
  rw [entryLines, List.length_map, List.length_zipIdx]

theorem entryLines_map (line : Nat → β → String) (f : α → β) (first : Nat) (items : List α) :
    entryLines line first (items.map f) = entryLines (fun n a => line n (f a)) first items := by
  rw [entryLines, entryLines, List.zipIdx_map, List.map_map]
  rfl

/-- Every space has its place in the listing. -/
theorem listingLines_eq (m : Module) (space : IndexSpace) :
    m.listingLines = m.linesBefore space ++ (m.part space ++ m.linesBehind space) := by
  cases space <;>
    simp only [listingLines, linesBefore, linesBehind, opening, closing, part, heading, block,
      definitions, entryLines_map, ImportKind.numbered_eq, firstNumber, localCount,
      List.append_assoc, List.cons_append, List.nil_append] <;>
    rfl

theorem length_linesBefore (m : Module) (space : IndexSpace) :
    (m.linesBefore space).length = m.headingLine space := by
  cases space <;>
    simp only [linesBefore, opening, part, headingLine, List.length_append, List.length_cons,
      block, length_entryLines, definitions, List.length_map] <;>
    omega

theorem listingLines_heading (m : Module) (space : IndexSpace) :
    m.listingLines[m.headingLine space]? = some (m.heading space) := by
  rw [m.listingLines_eq space, ← length_linesBefore, List.getElem?_append_right (Nat.le_refl _),
    Nat.sub_self]
  rfl

/-- The local definitions follow the heading of their space, a line each. -/
theorem listingLines_definition (m : Module) {i : Nat} (inside : i < (m.definitions space).length) :
    m.listingLines[m.headingLine space + 1 + i]? =
      (m.definitions space)[i]?.map (" - " ++ ·.numbered (m.firstNumber space + i)) := by
  have within : i < (m.block space).length := by rwa [block, length_entryLines]
  rw [m.listingLines_eq space, ← length_linesBefore, Nat.add_assoc,
    List.getElem?_append_right (Nat.le_add_right _ _), Nat.add_sub_cancel_left, Nat.add_comm 1,
    part, List.cons_append, List.getElem?_cons_succ, List.getElem?_append_left within,
    block, getElem?_entryLines]

/-- The exports follow their own heading behind the globals, a line each. -/
theorem listingLines_export (m : Module) (j : Nat) :
    m.listingLines[m.headingLine .global + 2 + j]? = m.exports[j]?.map (" - " ++ ·.text) := by
  have last : m.part .global ++ m.linesBehind .global =
      [m.heading .global, s!"Export[{m.exports.length}]:"] ++
        entryLines (fun _ e => e.text) 0 m.exports := rfl
  rw [m.listingLines_eq .global, ← length_linesBefore, Nat.add_assoc,
    List.getElem?_append_right (Nat.le_add_right _ _), Nat.add_sub_cancel_left, last,
    List.getElem?_append_right (Nat.le_add_right 2 j), List.length_cons, List.length_singleton,
    Nat.add_sub_cancel_left, getElem?_entryLines]

/-! ## Numbers and indices -/

/-- The line of the local definition `i` of a space is that of this definition under this number. -/
def ListedAs (m : Module) (space : IndexSpace) (i number : Nat) : Prop :=
  ∃ kind, (m.definitions space)[i]? = some kind ∧
    m.listingLines[m.headingLine space + 1 + i]? = some (" - " ++ kind.numbered number)

/-- The local definitions of a space are listed under their indices. -/
def ListedByIndex (m : Module) (space : IndexSpace) : Prop :=
  ∀ i < m.localCount space, m.ListedAs space i (m.importedCount space + i)

/-- How a listing numbers the local definitions of a space. -/
structure Numbering (m : Module) (space : IndexSpace) : Prop where
  /-- The joint numbering is the index space. -/
  joint : (m.entities space).length = m.spaceSize space
  /-- Functions are queried by it. -/
  queried : space = .function → ∀ index : UInt32,
    (m.entities space)[index.toNat]? = (m.signatureIndex? index).map .function
  /-- The block of the space is that below its heading. -/
  heading : m.listingLines[m.headingLine space]? = some (m.heading space)
  /-- Each local definition has a line there, in order, and the line shows one number. -/
  number : ∀ i < m.localCount space, ∀ n, m.ListedAs space i n ↔ n = m.firstNumber space + i
  /-- The numbers are the indices, unless what is counted from zero stands behind imports. -/
  byIndex : m.ListedByIndex space ↔
    space = .function ∨ m.importedCount space = 0 ∨ m.localCount space = 0
  /-- The export line of a local definition gives its index, and leads to its line under the same
  condition. -/
  exports : ∀ (j i : Nat) (e : Export), m.exports[j]? = some e → e.space = space →
    e.index.toNat = m.importedCount space + i → i < m.localCount space →
      m.listingLines[m.headingLine .global + 2 + j]? =
          some (s!" - {space.label}[{e.index}] -> " ++ "\"" ++ e.name ++ "\"") ∧
        (m.entities space)[e.index.toNat]? = (m.definitions space)[i]? ∧
        (m.ListedAs space i e.index.toNat ↔ space = .function ∨ m.importedCount space = 0)

theorem listedAs_iff {i n : Nat} (known : space ≠ .global) (inside : i < m.localCount space) :
    m.ListedAs space i n ↔ n = m.firstNumber space + i := by
  rw [← length_definitions known] at inside
  have defined := List.getElem?_eq_getElem inside
  have shown := m.listingLines_definition inside
  rw [defined, Option.map_some] at shown
  constructor
  · rintro ⟨kind, same, line⟩
    obtain rfl := Option.some.inj (defined.symm.trans same)
    have texts := (String.append_right_inj " - ").1 (Option.some.inj (shown.symm.trans line))
    exact (ImportKind.number_inj rfl texts).symm
  · rintro rfl
    exact ⟨_, defined, shown⟩

theorem importedCount_eq_firstNumber_iff :
    m.importedCount space = m.firstNumber space ↔
      space = .function ∨ m.importedCount space = 0 := by
  cases space <;> simp [firstNumber]

/-- One line decides for its block: the numbers and the indices both count on by one. -/
theorem listedByIndex_iff (known : space ≠ .global) : m.ListedByIndex space ↔
    m.importedCount space = m.firstNumber space ∨ m.localCount space = 0 := by
  constructor
  · intro byIndex
    rcases Nat.eq_zero_or_pos (m.localCount space) with none | some
    · exact .inr none
    · exact .inl ((listedAs_iff known some).1 (byIndex 0 some))
  · rintro (same | none) i inside
    · rw [listedAs_iff known inside, same]
    · rw [none] at inside
      exact absurd inside (Nat.not_lt_zero i)

/-- **Functions are listed under their indices, tables and memories are counted from zero.** -/
theorem listing_numbers (m : Module) (known : space ≠ .global) : m.Numbering space where
  joint := length_entities known
  queried := by
    rintro rfl index
    exact m.entities_function_index index
  heading := m.listingLines_heading space
  number i inside n := listedAs_iff known inside
  byIndex := by
    rw [listedByIndex_iff known, importedCount_eq_firstNumber_iff, or_assoc]
  exports j i e listed sort index inside := by
    subst sort
    refine ⟨?_, ?_, ?_⟩
    · rw [listingLines_export, listed]
      simp only [Option.map_some, Option.some.injEq, Export.text, Export.target, toString,
        ← String.toList_inj, String.toList_append, String.reduceToList, List.append_assoc,
        List.cons_append, List.nil_append]
    · rw [index, entities_importedCount_add]
    · rw [listedAs_iff known inside, index, Nat.add_right_cancel_iff,
        importedCount_eq_firstNumber_iff]

/-- A module that imports a table and a memory, and defines and exports a second one of each. -/
def doubled : Module where
  imports := [⟨"env", "t", .table ⟨0x70, ⟨2, none⟩⟩⟩, ⟨"env", "m", .memory ⟨2, none⟩⟩]
  tables := [⟨0x70, ⟨1, none⟩⟩]
  memories := [⟨1, none⟩]
  exports := [⟨"t", .table, 1⟩, ⟨"m", .memory, 1⟩]

/-- Its exported table has index 1 and is listed under 0. -/
theorem listing_numbers_doubled : IndexSpace.table ≠ .global ∧ doubled.Numbering .table ∧
    (doubled.entities .table)[1]? = (doubled.definitions .table)[0]? ∧
      doubled.ListedAs .table 0 0 := by
  have known : IndexSpace.table ≠ .global := by decide
  have numbering := listing_numbers doubled known
  exact ⟨known, numbering, rfl, (numbering.number 0 (by decide) 0).2 rfl⟩

/-- A binary of this module, and what is listed of it: neither export leads to a line. -/
theorem decode_listed_from_zero :
    decode (header ++ [
      0x02, 0x14, 0x02,
        0x03, 0x65, 0x6e, 0x76, 0x01, 0x74, 0x01, 0x70, 0x00, 0x02,
        0x03, 0x65, 0x6e, 0x76, 0x01, 0x6d, 0x02, 0x00, 0x02,
      0x04, 0x04, 0x01, 0x70, 0x00, 0x01,
      0x05, 0x03, 0x01, 0x00, 0x01,
      0x07, 0x09, 0x02, 0x01, 0x74, 0x01, 0x01, 0x01, 0x6d, 0x02, 0x01]) = .ok doubled ∧
    doubled.listingLines = [
      "Type[0]:",
      "Import[2]:",
      " - import[0] table type=0x70 initial=2 <- env.t",
      " - import[1] memory pages: initial=2 <- env.m",
      "Function[0]:",
      "Table[1]:",
      " - table[0] type=0x70 initial=1",
      "Memory[1]:",
      " - memory[0] pages: initial=1",
      "Global[0]",
      "Export[2]:",
      " - table[1] -> \"t\"",
      " - memory[1] -> \"m\""] ∧
    ¬ doubled.ListedByIndex .table ∧ ¬ doubled.ListedByIndex .memory := by
  refine ⟨by cbv, by decide +kernel, ?_, ?_⟩
  · rw [listedByIndex_iff (by decide)]
    decide
  · rw [listedByIndex_iff (by decide)]
    decide

end Module

end WasmBindings
