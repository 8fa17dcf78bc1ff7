import WasmBindings.Proofs.Module.Consistent

/-!
# Functions by their index

The functions of a module are numbered jointly: those that it imports come first, in import order,
and those that it defines come behind them. Imports of other kinds may stand anywhere between and
take no number.

The query selects the function imports and goes on with the local functions, while the size of the
space counts the imports of a kind on its own. The two agree on every module, also on one put
together by hand (`Module.functions_imports_first`). What an import's number is can be said without
a selection: it is the number of function imports in front of it (`Module.ImportsFunction`).
-/

namespace WasmBindings.Module

/-! ## Places in a selection -/

/-- A selected member stands in the selection behind those that are selected in front of it. -/
theorem getElem?_filterMap_of_split {f : α → Option β} {before after : List α} {a : α} {b : β}
    (found : f a = some b) :
    ((before ++ a :: after).filterMap f)[before.countP (fun a => (f a).isSome)]? = some b := by
  rw [List.filterMap_append, List.filterMap_cons_some found, ← List.length_filterMap_eq_countP,
    List.getElem?_append_right (Nat.le_refl _), Nat.sub_self, List.getElem?_cons_zero]

/-- What stands at a place of a selection was found at a member with so many selected in front. -/
theorem exists_split_of_getElem?_filterMap {f : α → Option β} {items : List α} {n : Nat} {b : β}
    (h : (items.filterMap f)[n]? = some b) :
    ∃ before a after, items = before ++ a :: after ∧
      before.countP (fun a => (f a).isSome) = n ∧ f a = some b := by
  induction items generalizing n with
  | nil => cases h
  | cons first items ih =>
    cases found : f first with
    | none =>
      rw [List.filterMap_cons_none found] at h
      obtain ⟨before, a, after, split, count, here⟩ := ih h
      refine ⟨first :: before, a, after, by rw [split, List.cons_append], ?_, here⟩
      rw [List.countP_cons_of_neg (by simp [found]), count]
    | some c =>
      rw [List.filterMap_cons_some found] at h
      cases n with
      | zero =>
        obtain rfl : c = b := Option.some.inj h
        exact ⟨[], first, items, rfl, rfl, found⟩
      | succ n =>
        -- the first member takes number zero, so the others move up by one
        rw [List.getElem?_cons_succ] at h
        obtain ⟨before, a, after, split, count, here⟩ := ih h
        refine ⟨first :: before, a, after, by rw [split, List.cons_append], ?_, here⟩
        rw [List.countP_cons_of_pos (by simp [found]), count]

/-! ## The joint numbering -/

variable {m : Module} {index : UInt32}

/-- Function import number `n` refers to this signature: the import stands behind `n` others that ask
for a function, and behind any number of other kinds. -/
def ImportsFunction (m : Module) (n : Nat) (signature : UInt32) : Prop :=
  ∃ before i after, m.imports = before ++ i :: after ∧
    before.countP (·.kind.space = .function) = n ∧ i.kind = .function signature

theorem getElem?_importedFunctions_iff {n : Nat} {signature : UInt32} :
    m.importedFunctions[n]? = some signature ↔ m.ImportsFunction n signature := by
  unfold importedFunctions ImportsFunction
  simp only [← ImportKind.isSome_signature?, ← ImportKind.signature?_eq_some_iff]
  constructor
  · exact exists_split_of_getElem?_filterMap
  · rintro ⟨before, i, after, split, rfl, asks⟩
    rw [split]
    exact getElem?_filterMap_of_split asks

/-- An index leads to no function if it lies beyond their space. -/
theorem signatureIndex?_eq_none_iff :
    m.signatureIndex? index = none ↔ m.spaceSize .function ≤ index.toNat := by
  rw [← length_joint]
  exact List.getElem?_eq_none_iff

theorem signatureIndex?_isSome_iff :
    (m.signatureIndex? index).isSome ↔ index.toNat < m.spaceSize .function := by
  rw [Option.isSome_iff_ne_none, ne_eq, signatureIndex?_eq_none_iff, Nat.not_le]

/-- Function number `n` has this signature index: it is an import, or it is a local function and
stands behind all imported ones. -/
inductive FunctionAt (m : Module) : Nat → UInt32 → Prop
  | imported {n : Nat} {signature : UInt32} (asks : m.ImportsFunction n signature) :
      FunctionAt m n signature
  | defined {k : Nat} {signature : UInt32} (here : m.functions[k]? = some signature) :
      FunctionAt m (m.importedCount .function + k) signature

theorem signatureIndex?_of_imported (imported : index.toNat < m.importedCount .function) :
    m.signatureIndex? index = m.importedFunctions[index.toNat]? := by
  rw [← length_importedFunctions] at imported
  exact List.getElem?_append_left imported

/-- Behind the imports stands the local function of the remaining number. -/
theorem signatureIndex?_of_local {k : Nat} (number : index.toNat = m.importedCount .function + k) :
    m.signatureIndex? index = m.functions[k]? := by
  rw [signatureIndex?, number, ← length_importedFunctions,
    List.getElem?_append_right (Nat.le_add_right _ _), Nat.add_sub_cancel_left]

/-- The query for signature indices finds what stands at the index, and nothing else. -/
theorem signatureIndex?_eq_some_iff {signature : UInt32} :
    m.signatureIndex? index = some signature ↔ m.FunctionAt index.toNat signature := by
  constructor
  · intro found
    rcases Nat.lt_or_ge index.toNat (m.importedCount .function) with imported | behind
    · rw [signatureIndex?_of_imported imported] at found
      exact .imported (getElem?_importedFunctions_iff.1 found)
    · obtain ⟨k, number⟩ := Nat.exists_eq_add_of_le behind
      rw [signatureIndex?_of_local number] at found
      rw [number]
      exact .defined found
  · intro there
    generalize number : index.toNat = n at there
    cases there with
    | imported asks =>
      rw [← number, ← getElem?_importedFunctions_iff] at asks
      obtain ⟨inside, _⟩ := List.getElem?_eq_some_iff.1 asks
      rw [length_importedFunctions] at inside
      rw [signatureIndex?_of_imported inside, asks]
    | defined here => rw [signatureIndex?_of_local number, here]

/-- A function has the signature that its index names. -/
theorem functionSignature?_eq_some_iff {s : Signature} : m.functionSignature? index = some s ↔
    ∃ k, m.FunctionAt index.toNat k ∧ m.signatures[k.toNat]? = some s := by
  unfold functionSignature?
  rw [Option.bind_eq_some_iff]
  simp only [signatureIndex?_eq_some_iff]
  rfl

/-- **Functions are numbered jointly: imports first, in their order and whatever stands between
them, and then the local ones.** -/
theorem functions_imports_first (m : Module) (index : UInt32) :
    ((m.signatureIndex? index).isSome ↔ index.toNat < m.spaceSize .function) ∧
    (index.toNat < m.importedCount .function → ∀ signature,
      m.signatureIndex? index = some signature ↔ m.ImportsFunction index.toNat signature) ∧
    (m.importedCount .function ≤ index.toNat →
      m.signatureIndex? index = m.functions[index.toNat - m.importedCount .function]?) := by
  refine ⟨signatureIndex?_isSome_iff, ?_, ?_⟩
  · intro imported signature
    rw [signatureIndex?_of_imported imported, getElem?_importedFunctions_iff]
  · intro behind
    exact signatureIndex?_of_local (Nat.add_sub_of_le behind).symm

/-- Two functions are imported among other entries and one is defined; no signature is declared. -/
def scattered : Module where
  imports := [⟨"env", "t", .table ⟨0x70, ⟨1, none⟩⟩⟩, ⟨"env", "f", .function 5⟩,
    ⟨"env", "m", .memory ⟨1, none⟩⟩, ⟨"env", "g", .function 7⟩, ⟨"env", "x", .global ⟨.i32, true⟩⟩]
  functions := [9]

/-- The fourth import is function 1, and the local function is number 2, the last one. -/
theorem functions_imports_first_scattered :
    (1 : UInt32).toNat < scattered.importedCount .function ∧ scattered.ImportsFunction 1 7 ∧
    scattered.importedCount .function ≤ (2 : UInt32).toNat ∧
    scattered.signatureIndex? 2 = some 9 ∧ (scattered.signatureIndex? 3).isSome = false := by
  have imported : (1 : UInt32).toNat < scattered.importedCount .function := by decide
  have behind : scattered.importedCount .function ≤ (2 : UInt32).toNat := by decide
  have second := (functions_imports_first scattered 1).2.1 imported 7
  have last := (functions_imports_first scattered 2).2.2 behind
  have outside := (functions_imports_first scattered 3).1
  refine ⟨imported, second.1 rfl, behind, last, ?_⟩
  rw [Bool.eq_false_iff, ne_eq, outside]
  decide

end WasmBindings.Module
