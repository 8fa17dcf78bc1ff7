import WasmBindings.Proofs.Outcome

/-!
# Consistent modules

A module is consistent when every index in it names something. Consistency is all that resolving
checks besides the number of function bodies, and it is enough for every query on the module to
find what it looks for: the joint numbering of functions has a signature for each of its indices,
and the lists of exported and imported functions leave no function out.
-/

namespace WasmBindings.Module

/-- Every index of a module names something. -/
structure Consistent (m : Module) : Prop where
  /-- Imported functions have signatures. -/
  imports : ∀ i ∈ m.imports, ∀ index, i.kind = .function index →
    index.toNat < m.signatures.length
  /-- So have the functions defined here. -/
  functions : ∀ index ∈ m.functions, index.toNat < m.signatures.length
  /-- Exports lie in their spaces. -/
  exports : ∀ e ∈ m.exports, e.index.toNat < m.spaceSize e.space

theorem resolveImport_eq_ok_iff {m : Module} {i : Import} :
    m.resolveImport i = .ok () ↔
      ∀ index, i.kind = .function index → index.toNat < m.signatures.length := by
  unfold resolveImport
  split
  · next index hk =>
    unfold requireSignature
    rw [Outcome.require_eq_ok_iff, hk]
    constructor
    · intro h _ given
      cases given
      exact h
    · exact fun h => h index rfl
  · next hk => exact ⟨fun _ index h => absurd h (hk index), fun _ => rfl⟩

/-- Resolving accepts exactly the consistent modules that come with a body for each function. -/
theorem resolve_eq_ok_iff {m : Module} {bodies : Nat} :
    m.resolve bodies = .ok () ↔ m.Consistent ∧ bodies = m.functions.length := by
  have functions : (∀ p ∈ m.functions.zipIdx (m.importedCount .function),
      m.resolveFunction p.2 p.1 = .ok ()) ↔
      ∀ index ∈ m.functions, index.toNat < m.signatures.length := by
    unfold resolveFunction requireSignature
    simp only [Outcome.require_eq_ok_iff]
    constructor
    · intro h index hi
      obtain ⟨k, hk⟩ := List.mem_iff_getElem?.1 hi
      -- the numbers only name a function in errors; every function has one
      refine h (index, m.importedCount .function + k) (List.mem_iff_getElem?.2 ⟨k, ?_⟩)
      rw [List.getElem?_zipIdx, hk]
      rfl
    · intro h p hp
      obtain ⟨k, hk⟩ := List.mem_iff_getElem?.1 hp
      rw [List.getElem?_zipIdx] at hk
      obtain ⟨index, hi, rfl⟩ := Option.map_eq_some_iff.1 hk
      exact h index (List.mem_iff_getElem?.2 ⟨k, hi⟩)
  unfold resolve
  rw [Outcome.check_bind_eq_ok_iff, Outcome.check_bind_eq_ok_iff, Outcome.check_bind_eq_ok_iff,
    Outcome.forM_eq_ok_iff, Outcome.forM_eq_ok_iff, Outcome.forM_eq_ok_iff,
    Outcome.require_eq_ok_iff, functions]
  unfold resolveExport
  simp only [resolveImport_eq_ok_iff, Outcome.require_eq_ok_iff]
  constructor
  · intro given
    obtain ⟨imports, functions, bodies, exports⟩ := given
    exact ⟨⟨imports, functions, exports⟩, bodies⟩
  · intro given
    obtain ⟨⟨imports, functions, exports⟩, bodies⟩ := given
    exact ⟨imports, functions, bodies, exports⟩

end Module

/-! ## Queries on consistent modules -/

/-- The imports with a signature are those of the function space. -/
theorem ImportKind.isSome_signature? (kind : ImportKind) :
    kind.signature?.isSome = decide (kind.space = .function) := by
  cases kind <;> rfl

theorem ImportKind.signature?_eq_some_iff {kind : ImportKind} {index : UInt32} :
    kind.signature? = some index ↔ kind = .function index := by
  cases kind <;> simp [signature?]

namespace Module

theorem length_importedFunctions (m : Module) :
    m.importedFunctions.length = m.importedCount .function := by
  unfold importedFunctions importedCount
  simp only [List.length_filterMap_eq_countP, ImportKind.isSome_signature?]

/-- The joint list of functions is as long as their index space. -/
theorem length_joint (m : Module) :
    (m.importedFunctions ++ m.functions).length = m.spaceSize .function := by
  rw [List.length_append, length_importedFunctions]
  rfl

theorem mem_importedFunctions_iff {m : Module} {index : UInt32} :
    index ∈ m.importedFunctions ↔ ∃ i ∈ m.imports, i.kind = .function index := by
  unfold importedFunctions
  simp only [List.mem_filterMap, ImportKind.signature?_eq_some_iff]

/-- A selection that loses nothing pairs each member selected with what was found for it. -/
theorem map_filterMap_pairs {p : α → Prop} [DecidablePred p] {g : α → Option β} {items : List α}
    (h : ∀ a ∈ items, p a → (g a).isSome) :
    (items.filterMap fun a => if p a then (g a).map (a, ·) else none).map
      (fun q => (q.1, some q.2)) = (items.filter p).map fun a => (a, g a) := by
  induction items with
  | nil => rfl
  | cons a items ih =>
    have rest := ih fun b hb => h b (List.mem_cons_of_mem _ hb)
    by_cases hp : p a
    -- a member that was selected finds something, so it is not lost
    · obtain ⟨b, hb⟩ := Option.isSome_iff_exists.1 (h a List.mem_cons_self hp)
      simp [hp, hb, rest]
    · simp [hp, rest]

/-- An index that names a signature finds one. -/
theorem signature?_isSome_iff {m : Module} {index : UInt32} :
    (m.signature? index).isSome ↔ index.toNat < m.signatures.length := by
  unfold signature?
  rw [Option.isSome_iff_ne_none, ne_eq, List.getElem?_eq_none_iff, Nat.not_le]

namespace Consistent

variable {m : Module} (h : m.Consistent)

include h

theorem signature_isSome_of_import {i : Import} (hi : i ∈ m.imports) {index : UInt32}
    (hk : i.kind = .function index) : (m.signature? index).isSome :=
  signature?_isSome_iff.2 (h.imports i hi index hk)

/-- Every function of the joint numbering has a signature. -/
theorem signature_isSome_of_joint {index : UInt32}
    (hi : index ∈ m.importedFunctions ++ m.functions) : (m.signature? index).isSome := by
  rw [signature?_isSome_iff]
  rcases List.mem_append.1 hi with hi | hi
  · obtain ⟨i, hi, hk⟩ := mem_importedFunctions_iff.1 hi
    exact h.imports i hi index hk
  · exact h.functions index hi

/-- Every index below the size of the function space leads to a signature. -/
theorem functionSignature_isSome {index : UInt32} (small : index.toNat < m.spaceSize .function) :
    (m.functionSignature? index).isSome := by
  rw [← length_joint] at small
  unfold functionSignature? signatureIndex?
  rw [List.getElem?_eq_getElem small, Option.bind_some]
  exact h.signature_isSome_of_joint (List.getElem_mem small)

/-- The function exports come out in order, each with the signature of its index. -/
theorem exportedFunctions_eq : m.exportedFunctions.map (fun p => (p.1, some p.2)) =
    (m.exports.filter (·.space = .function)).map fun e => (e, m.functionSignature? e.index) := by
  refine map_filterMap_pairs fun e he function => h.functionSignature_isSome ?_
  rw [← function]
  exact h.exports e he

/-- The function imports come out in order, each with its signature. -/
theorem importedSignatures_eq : m.importedSignatures.map (fun p => (p.1, some p.2)) =
    (m.imports.filter (·.kind.space = .function)).map fun i =>
      (i, i.kind.signature?.bind m.signature?) := by
  have selection : m.importedSignatures = m.imports.filterMap fun i =>
      if i.kind.space = .function then
        (i.kind.signature?.bind m.signature?).map (i, ·) else none := by
    -- the kinds that have a signature are those of the function space
    unfold importedSignatures
    congr 1
    funext i
    cases i.kind <;> simp [ImportKind.signature?, ImportKind.space]
  rw [selection]
  refine map_filterMap_pairs fun i hi function => ?_
  cases hk : i.kind with
  | function index => exact h.signature_isSome_of_import hi hk
  | _ => rw [hk] at function; cases function

end Consistent

end WasmBindings.Module
