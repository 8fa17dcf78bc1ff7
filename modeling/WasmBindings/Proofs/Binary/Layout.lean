import Mathlib
import WasmBindings.Proofs.Binary.Decode

/-!
# Writing whole modules

The bytes of a module, put together by the writers of its parts. A module does not say everything
about its binary: the flags of limits, what stands behind the counts of globals and bodies, and
whether an empty section is written at all are choices, gathered in a `Layout`.

Whatever a layout that fits a module chooses, decoding gives the module back (`decode_encode`). Each
writer has one lemma that what it writes is a spelling; the rest is that the sections written
describe the module.
-/

namespace WasmBindings

namespace Writer

/-! ## Entries -/

def valueType (t : ValueType) : Bytes := [t.tag]

def signature (s : Signature) : Bytes :=
  0x60 :: (vector valueType s.parameters ++ vector valueType s.results)

/-- A bound, 64 bits wide if bit 2 of the flags says so, else 32. -/
def bound (flags : UInt8) (n : UInt64) : Bytes :=
  if flags &&& 4 = 0 then u32 n.toUInt32 else u64 n

def limits (flags : UInt8) (l : Limits) : Bytes :=
  flags :: (bound flags l.min ++ (l.max.map (bound flags)).getD [])

def table (flags : UInt8) (t : TableType) : Bytes := t.element :: limits flags t.limits

def globalType (g : GlobalType) : Bytes := valueType g.value ++ [if g.isMutable then 1 else 0]

/-- What an import asks for; the flags are for limits in it, if there are any. -/
def importKind (flags : UInt8) : ImportKind → Bytes
  | .function index => 0 :: u32 index
  | .table type => 1 :: table flags type
  | .memory l => 2 :: limits flags l
  | .global type => 3 :: globalType type

def importEntry (flags : UInt8) (i : Import) : Bytes :=
  name i.moduleName ++ (name i.name ++ importKind flags i.kind)

def exportEntry (e : Export) : Bytes := name e.name ++ e.space.tag :: u32 e.index

end Writer

/-- The limits in what an import asks for. -/
def ImportKind.limits? : ImportKind → Option Limits
  | .table type => some type.limits
  | .memory limits => some limits
  | _ => none

/-- The flags that limits can be written with: a maximum is announced exactly if there is one, and
bounds of more than 32 bits are. The shared bit is free. -/
structure Limits.Fits (flags : UInt8) (l : Limits) : Prop where
  known : flags ≤ 7
  maximum : flags &&& 1 ≠ 0 ↔ l.max.isSome
  wide : flags &&& 4 = 0 → l.min.toNat < 2 ^ 32 ∧ ∀ max ∈ l.max, max.toNat < 2 ^ 32

/-- What is open when a module is written: flags for each import, table and memory, the bytes of
each global and body, and which sections are written although they are empty. -/
structure Layout where
  importFlags : List UInt8
  tableFlags : List UInt8
  memoryFlags : List UInt8
  globals : List Bytes
  bodies : List Bytes
  keepEmpty : UInt8 → Bool

namespace Layout

/-- The sections of a module by their ids, each as the list of its entries. -/
def entries (layout : Layout) (m : Module) : List (UInt8 × List Bytes) :=
  [(1, m.signatures.map Writer.signature),
    (2, List.zipWith Writer.importEntry layout.importFlags m.imports),
    (3, m.functions.map Writer.u32),
    (4, List.zipWith Writer.table layout.tableFlags m.tables),
    (5, List.zipWith Writer.limits layout.memoryFlags m.memories),
    (6, layout.globals),
    (7, m.exports.map Writer.exportEntry),
    (10, layout.bodies)]

/-- The sections that are written: those with entries, and the empty ones that are kept. -/
def sections (layout : Layout) (m : Module) : List RawSection :=
  ((layout.entries m).filter fun e => !e.2.isEmpty || layout.keepEmpty e.1).map fun e =>
    ⟨e.1, Writer.vector id e.2⟩

/-- The binary of a module. -/
def encode (layout : Layout) (m : Module) : Bytes :=
  Module.header ++ (layout.sections m).flatMap fun s => Writer.sectionOf s.id s.payload

/-- A layout that makes a choice for everything that is open about a module. -/
structure Fits (layout : Layout) (m : Module) : Prop where
  imports : List.Forall₂ (fun flags i => ∀ l ∈ i.kind.limits?, l.Fits flags)
    layout.importFlags m.imports
  tables : List.Forall₂ (fun flags t => t.limits.Fits flags) layout.tableFlags m.tables
  memories : List.Forall₂ (fun flags l => l.Fits flags) layout.memoryFlags m.memories
  globals : layout.globals.length = m.globalCount.toNat
  bodies : layout.bodies.length = m.functions.length

end Layout

namespace Module

/-- No value type of a module is a number type under another name. -/
structure Proper (m : Module) : Prop where
  signatures : ∀ s ∈ m.signatures, ∀ t ∈ s.parameters ++ s.results, t.Proper
  globals : ∀ i ∈ m.imports, ∀ g, i.kind = .global g → g.value.Proper

/-- The lists and names of a module are short enough for their sizes to be written. -/
structure Short (m : Module) : Prop where
  signatures : m.signatures.length < 2 ^ 32
  types : ∀ s ∈ m.signatures, s.parameters.length < 2 ^ 32 ∧ s.results.length < 2 ^ 32
  imports : m.imports.length < 2 ^ 32
  importNames : ∀ i ∈ m.imports, (Utf8.encode i.moduleName).length < 2 ^ 32 ∧
    (Utf8.encode i.name).length < 2 ^ 32
  functions : m.functions.length < 2 ^ 32
  tables : m.tables.length < 2 ^ 32
  memories : m.memories.length < 2 ^ 32
  exports : m.exports.length < 2 ^ 32
  exportNames : ∀ e ∈ m.exports, (Utf8.encode e.name).length < 2 ^ 32

end Module

/-! ## What the writers write is spelled right -/

namespace Writer

theorem items_spells {S : Spelling α} {pieces : List Bytes} {items : List α}
    (h : List.Forall₂ (fun piece a => S a piece) pieces items) :
    Spelling.Items S items (pieces.flatMap id) := by
  induction h with
  | nil => exact .nil
  | cons first _ ih => exact .cons first ih

theorem vector_spells {S : Spelling α} {pieces : List Bytes} {items : List α}
    (h : List.Forall₂ (fun piece a => S a piece) pieces items) (short : items.length < 2 ^ 32) :
    Spelling.Vector S items (vector id pieces) := by
  refine ⟨size pieces.length, pieces.flatMap id, ?_, items_spells h, rfl⟩
  rw [h.length_eq]
  exact size_spells short

/-- A vector whose items leave nothing open. -/
theorem vector_map_spells {S : Spelling α} {w : α → Bytes} {items : List α}
    (h : ∀ a ∈ items, S a (w a)) (short : items.length < 2 ^ 32) :
    Spelling.Vector S items (vector id (items.map w)) := by
  refine vector_spells ?_ short
  rw [List.forall₂_map_left_iff, List.forall₂_same]
  exact h

/-- A vector with a choice to make for each item. -/
theorem vector_zipWith_spells {S : Spelling α} {R : γ → α → Prop} {w : γ → α → Bytes}
    {choices : List γ} {items : List α} (fits : List.Forall₂ R choices items)
    (h : ∀ c, ∀ a ∈ items, R c a → S a (w c a)) (short : items.length < 2 ^ 32) :
    Spelling.Vector S items (vector id (List.zipWith w choices items)) := by
  refine vector_spells ?_ short
  clear short
  induction fits with
  | nil => exact .nil
  | @cons c a choices items first _ ih =>
    exact .cons (h c a List.mem_cons_self first)
      (ih fun c b hb => h c b (List.mem_cons_of_mem _ hb))

theorem valueTypes_spells {types : List ValueType} (proper : ∀ t ∈ types, t.Proper)
    (short : types.length < 2 ^ 32) :
    Spelling.Vector ValueType.SpelledBy types (vector valueType types) := by
  have same : vector valueType types = vector id (types.map valueType) := by
    simp [vector, List.flatMap_map]
  rw [same]
  exact vector_map_spells (fun t ht => ⟨proper t ht, rfl⟩) short

theorem signature_spells {s : Signature} (proper : ∀ t ∈ s.parameters ++ s.results, t.Proper)
    (parameters : s.parameters.length < 2 ^ 32) (results : s.results.length < 2 ^ 32) :
    s.SpelledBy (signature s) :=
  ⟨_, _, valueTypes_spells (fun t ht => proper t (List.mem_append_left _ ht)) parameters,
    valueTypes_spells (fun t ht => proper t (List.mem_append_right _ ht)) results, rfl⟩

theorem bound_spells {flags : UInt8} {n : UInt64} (fits : flags &&& 4 = 0 → n.toNat < 2 ^ 32) :
    Spelling.Bound flags n (bound flags n) := by
  unfold Spelling.Bound bound
  split
  · next narrow =>
    have same : n.toUInt32.toNat = n.toNat := by
      rw [UInt64.toNat_toUInt32, Nat.mod_eq_of_lt (fits narrow)]
    have spelled := u32_spells n.toUInt32
    rwa [Spelling.U32, same] at spelled
  · exact u64_spells n

theorem limits_spells {flags : UInt8} {l : Limits} (fits : l.Fits flags) :
    l.SpelledBy (limits flags l) := by
  obtain ⟨min, max⟩ := l
  have first := bound_spells fun narrow => (fits.wide narrow).1
  cases max with
  | none =>
    have single : flags &&& 1 = 0 := by
      simpa using fits.maximum.not
    unfold limits
    rw [Option.map_none, Option.getD_none, List.append_nil]
    exact .unbounded fits.known single first
  | some max =>
    have second := bound_spells fun narrow => (fits.wide narrow).2 max rfl
    exact .bounded fits.known (fits.maximum.2 rfl) first second

theorem table_spells {flags : UInt8} {t : TableType} (fits : t.limits.Fits flags) :
    t.SpelledBy (table flags t) :=
  ⟨_, limits_spells fits, rfl⟩

theorem importKind_spells {flags : UInt8} {kind : ImportKind}
    (fits : ∀ l ∈ kind.limits?, l.Fits flags) (proper : ∀ g, kind = .global g → g.value.Proper) :
    kind.SpelledBy (importKind flags kind) := by
  cases kind with
  | function index => exact .function (u32_spells index)
  | table type => exact .table (table_spells (fits _ rfl))
  | memory l => exact .memory (limits_spells (fits _ rfl))
  | global type => exact .global ⟨_, ⟨proper type rfl, rfl⟩, rfl⟩

theorem importEntry_spells {flags : UInt8} {i : Import}
    (fits : ∀ l ∈ i.kind.limits?, l.Fits flags)
    (proper : ∀ g, i.kind = .global g → g.value.Proper)
    (moduleName : (Utf8.encode i.moduleName).length < 2 ^ 32)
    (name : (Utf8.encode i.name).length < 2 ^ 32) : i.SpelledBy (importEntry flags i) :=
  ⟨_, _, _, name_spells moduleName, name_spells name, importKind_spells fits proper, rfl⟩

theorem exportEntry_spells {e : Export} (name : (Utf8.encode e.name).length < 2 ^ 32) :
    e.SpelledBy (exportEntry e) :=
  ⟨_, _, name_spells name, u32_spells e.index, rfl⟩

theorem sectionOf_spells {s : RawSection} (short : s.payload.length < 2 ^ 32) :
    s.SpelledBy (sectionOf s.id s.payload) :=
  ⟨_, size_spells short, rfl⟩

/-- A vector leads with the number of its items. -/
theorem vector_leads {pieces : List Bytes} {n : Nat} (h : pieces.length = n) (short : n < 2 ^ 32) :
    Spelling.Leading n (vector id pieces) := by
  subst h
  exact ⟨_, _, size_spells short, rfl⟩

end Writer

/-! ## The sections written describe the module -/

namespace Layout

variable {layout : Layout} {m : Module}

theorem ids_entries (layout : Layout) (m : Module) :
    (layout.entries m).map Prod.fst = [1, 2, 3, 4, 5, 6, 7, 10] := rfl

theorem mem_sections_iff {s : RawSection} : s ∈ layout.sections m ↔
    ∃ e ∈ layout.entries m, (!e.2.isEmpty || layout.keepEmpty e.1) ∧
      s = ⟨e.1, Writer.vector id e.2⟩ := by
  unfold sections
  rw [List.mem_map]
  simp only [List.mem_filter, and_assoc, eq_comm]

theorem sections_order : (RawSection.placed (layout.sections m)).Sublist RawSection.mandated := by
  have ids : ((layout.sections m).map (·.id)).Sublist [1, 2, 3, 4, 5, 6, 7, 10] := by
    rw [← ids_entries layout m, sections, List.map_map]
    exact List.filter_sublist.map Prod.fst
  exact (List.filter_sublist.trans ids).trans (by decide)

theorem sections_proper {s : RawSection} (hs : s ∈ layout.sections m) : s.id ≠ 0 := by
  obtain ⟨e, he, _, rfl⟩ := mem_sections_iff.1 hs
  have hid : e.1 ∈ (layout.entries m).map Prod.fst := List.mem_map_of_mem he
  rw [ids_entries] at hid
  intro zero
  change e.1 = 0 at zero
  rw [zero] at hid
  exact absurd hid (by decide)

/-- The section of an id says what its entries are, and may be missing if there are none. -/
theorem sections_tell {number : UInt8} {pieces : List Bytes} {S : Spelling β} {absent value : β}
    (entry : (number, pieces) ∈ layout.entries m) (spelled : S value (Writer.vector id pieces))
    (empty : pieces = [] → value = absent) :
    RawSection.Says (layout.sections m) number S absent value where
  present := by
    intro s hs same
    obtain ⟨e, he, _, rfl⟩ := mem_sections_iff.1 hs
    -- each id comes once, so the section found is the one asked for
    have distinct : ((layout.entries m).map Prod.fst).Nodup := by
      rw [ids_entries]
      decide
    obtain rfl : e = (number, pieces) := List.inj_on_of_nodup_map distinct he entry same
    exact spelled
  missing := by
    intro none
    refine empty (Decidable.not_not.1 fun some => ?_)
    -- a section with entries is always written
    refine none ⟨number, Writer.vector id pieces⟩ (mem_sections_iff.2 ⟨_, entry, ?_, rfl⟩) rfl
    simp [some]

theorem eq_nil_of_zipWith {R : γ → α → Prop} {w : γ → α → Bytes} {choices : List γ}
    {items : List α} (fits : List.Forall₂ R choices items)
    (none : List.zipWith w choices items = []) : items = [] := by
  cases fits with
  | nil => rfl
  | cons => cases none

/-- The sections that a fitting layout writes describe the module. -/
theorem Fits.describes (fits : layout.Fits m) (short : m.Short) (proper : m.Proper) :
    m.DescribedBy (layout.sections m) where
  order := sections_order
  custom := fun s hs custom => absurd custom (sections_proper hs)
  signatures := by
    have spelled : Spelling.Vector Signature.SpelledBy m.signatures
        (Writer.vector id (m.signatures.map Writer.signature)) := by
      refine Writer.vector_map_spells (fun s hs => ?_) short.signatures
      have sizes := short.types s hs
      exact Writer.signature_spells (proper.signatures s hs) sizes.1 sizes.2
    exact sections_tell (by simp [entries]) spelled List.map_eq_nil_iff.1
  imports := by
    have spelled : Spelling.Vector Import.SpelledBy m.imports
        (Writer.vector id (List.zipWith Writer.importEntry layout.importFlags m.imports)) := by
      refine Writer.vector_zipWith_spells fits.imports (fun flags i hi fit => ?_) short.imports
      have names := short.importNames i hi
      exact Writer.importEntry_spells fit (proper.globals i hi) names.1 names.2
    exact sections_tell (by simp [entries]) spelled (eq_nil_of_zipWith fits.imports)
  functions := by
    have spelled : Spelling.Vector Spelling.U32 m.functions
        (Writer.vector id (m.functions.map Writer.u32)) :=
      Writer.vector_map_spells (fun n _ => Writer.u32_spells n) short.functions
    exact sections_tell (by simp [entries]) spelled List.map_eq_nil_iff.1
  tables := by
    have spelled : Spelling.Vector TableType.SpelledBy m.tables
        (Writer.vector id (List.zipWith Writer.table layout.tableFlags m.tables)) :=
      Writer.vector_zipWith_spells fits.tables (fun _ _ _ fit => Writer.table_spells fit)
        short.tables
    exact sections_tell (by simp [entries]) spelled (eq_nil_of_zipWith fits.tables)
  memories := by
    have spelled : Spelling.Vector Limits.SpelledBy m.memories
        (Writer.vector id (List.zipWith Writer.limits layout.memoryFlags m.memories)) :=
      Writer.vector_zipWith_spells fits.memories (fun _ _ _ fit => Writer.limits_spells fit)
        short.memories
    exact sections_tell (by simp [entries]) spelled (eq_nil_of_zipWith fits.memories)
  globals := by
    have spelled := Writer.vector_leads fits.globals m.globalCount.toNat_lt
    refine sections_tell (by simp [entries]) spelled fun none => ?_
    rw [← fits.globals, none, List.length_nil]
  exports := by
    have spelled : Spelling.Vector Export.SpelledBy m.exports
        (Writer.vector id (m.exports.map Writer.exportEntry)) :=
      Writer.vector_map_spells (fun e he => Writer.exportEntry_spells (short.exportNames e he))
        short.exports
    exact sections_tell (by simp [entries]) spelled List.map_eq_nil_iff.1
  bodies := by
    have spelled := Writer.vector_leads fits.bodies short.functions
    refine sections_tell (by simp [entries]) spelled fun none => ?_
    rw [← fits.bodies, none, List.length_nil]

/-- What a fitting layout writes spells the module. -/
theorem Fits.encode_spells (fits : layout.Fits m) (short : m.Short)
    (payloads : ∀ s ∈ layout.sections m, s.payload.length < 2 ^ 32) (proper : m.Proper)
    (consistent : m.Consistent) : m.SpelledBy (layout.encode m) := by
  refine ⟨layout.sections m, _, rfl, ?_, fits.describes short proper, consistent⟩
  have same : ((layout.sections m).flatMap fun s => Writer.sectionOf s.id s.payload) =
      ((layout.sections m).map fun s => Writer.sectionOf s.id s.payload).flatMap id := by
    simp [List.flatMap_map]
  rw [same]
  -- each section is spelled by what is written for it
  refine Writer.items_spells ?_
  rw [List.forall₂_map_left_iff, List.forall₂_same]
  exact fun s hs => Writer.sectionOf_spells (payloads s hs)

/-- **Decoding undoes encoding,** whatever the layout chooses. -/
theorem decode_encode (fits : layout.Fits m) (short : m.Short)
    (payloads : ∀ s ∈ layout.sections m, s.payload.length < 2 ^ 32) (proper : m.Proper)
    (consistent : m.Consistent) : Module.decode (layout.encode m) = .ok m :=
  Module.decode_of_spelledBy (fits.encode_spells short payloads proper consistent)

/-- A module with a shared memory of up to `2 ^ 32` pages, whose bounds take 64 bits, and with an
empty memory section. -/
theorem decode_encode_shared : ∃ (layout : Layout) (m : Module),
    layout.importFlags = [7, 0] ∧ layout.sections m ≠ [] ∧
      Module.decode (layout.encode m) = .ok m := by
  let m : Module := {
    signatures := [⟨[.i32, .other 0x70], [.f64]⟩, ⟨[], []⟩]
    imports := [⟨"env", "mem", .memory ⟨1, some 0x100000000⟩⟩, ⟨"env", "log", .function 1⟩]
    functions := [0]
    tables := [⟨0x70, ⟨3, none⟩⟩]
    globalCount := 1
    exports := [⟨"run", .function, 1⟩] }
  let layout : Layout := {
    importFlags := [7, 0]
    tableFlags := [0]
    memoryFlags := []
    globals := [[0x7f, 0x00, 0x41, 0x00, 0x0b]]
    bodies := [[0x02, 0x00, 0x0b]]
    keepEmpty := (· = 5) }
  have shared : Limits.Fits 7 ⟨1, some 0x100000000⟩ :=
    ⟨by decide, by decide, fun narrow => absurd narrow (by decide)⟩
  have single : Limits.Fits 0 ⟨3, none⟩ := ⟨by decide, by decide, fun _ => ⟨by decide, by simp⟩⟩
  have fits : layout.Fits m := {
    imports := by simpa [layout, m, ImportKind.limits?] using shared
    tables := by simpa [layout, m] using single
    memories := .nil
    globals := rfl
    bodies := rfl }
  have short : m.Short := by
    constructor <;> decide
  have payloads : ∀ s ∈ layout.sections m, s.payload.length < 2 ^ 32 := by
    have sizes : (layout.sections m).map (·.payload.length) = [10, 27, 2, 4, 1, 6, 7, 4] := by cbv
    intro s hs
    have size := List.mem_map_of_mem (f := (·.payload.length)) hs
    rw [sizes] at size
    simp at size
    omega
  have proper : m.Proper := by
    constructor
    · decide
    · simp [m]
  have consistent : m.Consistent := {
    imports := by simp [m]
    functions := by simp [m]
    exports := by
      simp only [m, List.forall_mem_singleton]
      decide }
  exact ⟨layout, m, rfl, by decide, decode_encode fits short payloads proper consistent⟩

end Layout

end WasmBindings
