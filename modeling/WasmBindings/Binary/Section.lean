import WasmBindings.Binary.Leb128

/-!
# Sections

After the header a module is a row of sections, each an id, a size and a payload of that many
bytes. Custom sections may stand anywhere. Every other kind has a rank, and the ranks of the
sections of a module strictly increase. The rank is the id, except that the data count comes
between elements and code.
-/

namespace WasmBindings

/-- The kinds of section. -/
inductive SectionKind where
  | custom
  | signatures
  | imports
  | functions
  | tables
  | memories
  | globals
  | exports
  | start
  | elements
  | code
  | data
  | dataCount
  deriving DecidableEq, Repr

namespace SectionKind

/-- The id that announces a section of this kind. -/
def id : SectionKind → UInt8
  | custom => 0
  | signatures => 1
  | imports => 2
  | functions => 3
  | tables => 4
  | memories => 5
  | globals => 6
  | exports => 7
  | start => 8
  | elements => 9
  | code => 10
  | data => 11
  | dataCount => 12

/-- Every kind, by its id. -/
def all : List SectionKind :=
  [custom, signatures, imports, functions, tables, memories, globals, exports, start, elements,
    code, data, dataCount]

/-- The kind that an id announces. -/
def ofId? (id : UInt8) : Option SectionKind := all[id.toNat]?

/-- The name of a kind in the log. -/
def label : SectionKind → String
  | custom => "custom"
  | signatures => "type"
  | imports => "import"
  | functions => "function"
  | tables => "table"
  | memories => "memory"
  | globals => "global"
  | exports => "export"
  | start => "start"
  | elements => "element"
  | code => "code"
  | data => "data"
  | dataCount => "datacount"

/-- The rank of a kind; a custom section has none. -/
def rank? : SectionKind → Option Nat
  | custom => none
  | signatures => some 1
  | imports => some 2
  | functions => some 3
  | tables => some 4
  | memories => some 5
  | globals => some 6
  | exports => some 7
  | start => some 8
  | elements => some 9
  | dataCount => some 10
  | code => some 11
  | data => some 12

theorem ofId?_id (kind : SectionKind) : ofId? kind.id = some kind := by
  cases kind <;> rfl

theorem id_of_ofId? {id : UInt8} {kind : SectionKind} (h : ofId? id = some kind) :
    kind.id = id := by
  have small : id.toNat < 13 := by
    unfold ofId? at h
    exact (List.getElem?_eq_some_iff.1 h).1
  have cover : ∀ n : Fin 13, ∀ kind, all[n.val]? = some kind → kind.id = UInt8.ofNat n.val := by
    decide
  simpa using cover ⟨id.toNat, small⟩ kind h

/-- The name of an id in the log, whether or not a kind has it. -/
def labelOf (id : UInt8) : String := ((ofId? id).map label).getD "unknown"

end SectionKind

/-- A section cut out of a binary: where it starts, its id and its payload. -/
structure Frame where
  offset : Nat
  id : UInt8
  payload : Cursor
  deriving DecidableEq, Repr

/-- The size of the payload. -/
def Frame.size (f : Frame) : Nat := f.payload.remaining

/-- Cuts out the next section. -/
def Reader.frame : Reader Frame := do
  let start ← offset
  let id ← byte
  let size ← u32
  let payload ← window size.toNat
  return ⟨start, id, payload⟩

/-! ## Every section takes bytes -/

/-- A reader that takes at least `least` bytes whenever it succeeds. -/
def Reader.Consumes (r : Reader α) (least : Nat) : Prop :=
  ∀ c a c', r c = .ok (a, c') → c'.remaining + least ≤ c.remaining

namespace Reader.Consumes

theorem mono {r : Reader α} {m n : Nat} (h : Consumes r n) (le : m ≤ n) : Consumes r m :=
  fun c a c' run => by
    have := h c a c' run
    omega

theorem pure (a : α) : Consumes (Pure.pure a : Reader α) 0 := by
  intro c b c' run
  cases run
  exact Nat.le_refl _

theorem bind {r : Reader α} {f : α → Reader β} {m n : Nat} (first : Consumes r m)
    (second : ∀ a, Consumes (f a) n) : Consumes (r >>= f) (m + n) := by
  intro c b c' run
  change (r c >>= fun p => f p.1 p.2) = _ at run
  cases h : r c with
  | error e =>
    rw [h] at run
    cases run
  | ok p =>
    rw [h] at run
    have := first c p.1 p.2 h
    have := second p.1 p.2 b c' run
    omega

theorem throw (e : FormatError) (n : Nat) : Consumes (throw e : Reader α) n := by
  intro c a c' run
  cases run

theorem ite {r s : Reader α} {p : Prop} [Decidable p] {n : Nat} (yes : Consumes r n)
    (no : Consumes s n) : Consumes (if p then r else s) n := by
  split <;> assumption

theorem offset : Consumes Reader.offset 0 := by
  intro c a c' run
  cases run
  exact Nat.le_refl _

theorem byte : Consumes Reader.byte 1 := by
  intro c a c' run
  unfold Reader.byte at run
  split at run
  · cases run
  · next b rest hw =>
    cases run
    simp [Cursor.remaining, hw]

theorem bytes (count : Nat) : Consumes (Reader.bytes count) count := by
  intro c a c' run
  unfold Reader.bytes at run
  split at run
  · cases run
    simp [Cursor.remaining, Cursor.advance] at *
    omega
  · cases run

theorem window (count : Nat) : Consumes (Reader.window count) count := by
  intro c a c' run
  unfold Reader.window at run
  split at run
  · cases run
    simp [Cursor.remaining, Cursor.advance] at *
    omega
  · cases run

theorem groups (start bits : Nat) : Consumes (Leb128.groups start bits) 1 := by
  induction bits using Nat.strongRecOn with
  | ind bits ih =>
    unfold Leb128.groups
    split
    · next bits =>
      exact bind (n := 0) byte fun b =>
        ite (pure _) (mono (bind (ih (bits + 1) (by omega)) fun _ => pure _) (Nat.zero_le _))
    · exact bind (n := 0) byte fun b => ite (throw _ _) (ite (throw _ _) (pure _))

theorem u32 : Consumes Reader.u32 1 :=
  bind (n := 0) (bind (m := 0) offset fun start => groups start 32) fun _ => pure _

theorem u64 : Consumes Reader.u64 1 :=
  bind (n := 0) (bind (m := 0) offset fun start => groups start 64) fun _ => pure _

theorem frame : Consumes Reader.frame 2 := by
  refine mono (n := 0 + (1 + (1 + (0 + 0)))) ?_ (by omega)
  refine bind offset fun start => bind byte fun id => bind u32 fun size => ?_
  exact bind (mono (window _) (Nat.zero_le _)) fun payload => pure _

end Reader.Consumes

end WasmBindings
