import WasmBindings.Proofs.Module.Functions

/-!
# What resolving reports

Resolving looks at the imports of a module, then at its own functions, then at the number of bodies,
then at the exports (`Module.references`). With each of these one thing can be wrong, and what is
reported of it is said by `Module.Violates`, which mentions no check. Every stage of the check has
the errors of the references that it is about, and stages follow one another as their references
do, so the whole reports the first violation in this order (`Module.resolve_eq_error_iff`).

A local function is reported under its number among all functions. That is the index by which a
query finds it, and the query gives the signature index that was at fault.
-/

namespace WasmBindings

/-- What resolving looks at. -/
inductive Reference where
  | imported (i : Import)
  /-- A function defined in the module, with its number among all functions. -/
  | defined (number : Nat) (signature : UInt32)
  | bodies (count : Nat)
  | exported (x : Export)

/-- The errors of indices that name nothing and of functions without a body. -/
inductive FormatError.Unresolved : FormatError → Prop
  | signature {user : SignatureUser} {index : UInt32} {count : Nat} :
      Unresolved (.unknownSignature user index count)
  | exportIndex {name : String} {space : IndexSpace} {index : UInt32} {count : Nat} :
      Unresolved (.unknownExportIndex name space index count)
  | bodies {functions bodies : Nat} : Unresolved (.functionBodyMismatch functions bodies)

namespace Module

/-- All that resolving looks at in a module that came with so many bodies, in order. -/
def references (m : Module) (bodies : Nat) : List Reference :=
  m.imports.map .imported ++
    ((m.functions.mapIdx fun k signature => .defined (m.importedCount .function + k) signature) ++
      ([.bodies bodies] ++ m.exports.map .exported))

/-- What can be wrong with a reference, and the error that says so. -/
inductive Violates (m : Module) : Reference → FormatError → Prop
  | imported {i : Import} {index : UInt32} (asks : i.kind = .function index)
      (beyond : m.signatures.length ≤ index.toNat) :
      Violates m (.imported i)
        (.unknownSignature (.importing i.moduleName i.name) index m.signatures.length)
  | defined {number : Nat} {signature : UInt32}
      (beyond : m.signatures.length ≤ signature.toNat) :
      Violates m (.defined number signature)
        (.unknownSignature (.function number) signature m.signatures.length)
  | bodies {count : Nat} (differ : count ≠ m.functions.length) :
      Violates m (.bodies count) (.functionBodyMismatch m.functions.length count)
  | exported {x : Export} (beyond : m.spaceSize x.space ≤ x.index.toNat) :
      Violates m (.exported x)
        (.unknownExportIndex x.name x.space x.index (m.spaceSize x.space))

variable {m : Module} {e : FormatError}

/-! ## Single checks -/

theorem requireSignature_eq_error_iff {user : SignatureUser} {index : UInt32} :
    m.requireSignature user index = .error e ↔
      m.signatures.length ≤ index.toNat ∧
        e = .unknownSignature user index m.signatures.length := by
  unfold requireSignature
  rw [Outcome.require_eq_error_iff, Nat.not_lt]

theorem resolveImport_eq_error_iff {i : Import} :
    m.resolveImport i = .error e ↔ m.Violates (.imported i) e := by
  constructor
  · intro failed
    unfold resolveImport at failed
    split at failed
    · next index asks =>
      obtain ⟨beyond, rfl⟩ := requireSignature_eq_error_iff.1 failed
      exact .imported asks beyond
    -- other kinds refer to no signature
    · cases failed
  · intro violates
    cases violates with
    | imported asks beyond =>
      unfold resolveImport
      rw [asks]
      exact requireSignature_eq_error_iff.2 ⟨beyond, rfl⟩

theorem resolveFunction_eq_error_iff {number : Nat} {signature : UInt32} :
    m.resolveFunction number signature = .error e ↔ m.Violates (.defined number signature) e := by
  unfold resolveFunction
  rw [requireSignature_eq_error_iff]
  constructor
  · rintro ⟨beyond, rfl⟩
    exact .defined beyond
  · intro violates
    cases violates with
    | defined beyond => exact ⟨beyond, rfl⟩

theorem require_bodies_eq_error_iff {bodies : Nat} :
    require (bodies = m.functions.length) (.functionBodyMismatch m.functions.length bodies) =
      .error e ↔ m.Violates (.bodies bodies) e := by
  rw [Outcome.require_eq_error_iff]
  constructor
  · rintro ⟨differ, rfl⟩
    exact .bodies differ
  · intro violates
    cases violates with
    | bodies differ => exact ⟨differ, rfl⟩

theorem resolveExport_eq_error_iff {x : Export} :
    m.resolveExport x = .error e ↔ m.Violates (.exported x) e := by
  unfold resolveExport
  rw [Outcome.require_eq_error_iff, Nat.not_lt]
  constructor
  · rintro ⟨beyond, rfl⟩
    exact .exported beyond
  · intro violates
    cases violates with
    | exported beyond => exact ⟨beyond, rfl⟩

/-! ## The whole check -/

/-- The check counts the local functions on from the imported ones. -/
theorem defined_references (m : Module) :
    (m.functions.zipIdx (m.importedCount .function)).map (fun p => Reference.defined p.2 p.1) =
      m.functions.mapIdx fun k signature => .defined (m.importedCount .function + k) signature := by
  refine List.ext_getElem? fun k => ?_
  rw [List.getElem?_map, List.getElem?_zipIdx, List.getElem?_mapIdx, Option.map_map]
  rfl

/-- Resolving fails with the first violation. -/
theorem resolve_eq_error_iff {bodies : Nat} :
    m.resolve bodies = .error e ↔ Outcome.First m.Violates (m.references bodies) e := by
  unfold resolve references
  refine Outcome.check_bind_eq_error_iff_first (fun e => ?imports) fun e =>
    Outcome.check_bind_eq_error_iff_first (fun e => ?functions) fun e =>
      Outcome.check_bind_eq_error_iff_first (fun e => ?bodies) fun e => ?exports
  case imports =>
    rw [Outcome.forM_eq_error_iff, Outcome.first_map_iff]
    simp only [resolveImport_eq_error_iff]
  case functions =>
    rw [Outcome.forM_eq_error_iff, ← defined_references, Outcome.first_map_iff]
    simp only [resolveFunction_eq_error_iff]
  case bodies => rw [require_bodies_eq_error_iff, Outcome.first_singleton_iff]
  case exports =>
    rw [Outcome.forM_eq_error_iff, Outcome.first_map_iff]
    simp only [resolveExport_eq_error_iff]

/-- Resolving has no errors but these. -/
theorem unresolved_of_resolve {bodies : Nat} (h : m.resolve bodies = .error e) :
    e.Unresolved := by
  obtain ⟨_, _, violates⟩ := (resolve_eq_error_iff.1 h).exists_mem
  cases violates with
  | imported => exact .signature
  | defined => exact .signature
  | bodies => exact .bodies
  | exported => exact .exportIndex

/-! ## The function that an error names -/

/-- A local function has its number from the joint numbering. -/
theorem signatureIndex?_of_mem_references {bodies : Nat} {number signature : UInt32}
    (mem : .defined number.toNat signature ∈ m.references bodies) :
    m.signatureIndex? number = some signature := by
  simp only [references, List.mem_append, List.mem_map, List.mem_singleton, reduceCtorEq,
    and_false, exists_const, false_or, or_false] at mem
  obtain ⟨k, inside, same⟩ := List.mem_mapIdx.1 mem
  obtain ⟨joint, rfl⟩ := Reference.defined.inj same
  rw [signatureIndex?_of_local joint.symm, List.getElem?_eq_getElem inside]

/-- **Resolving accepts the consistent modules that have a body for each function, and of any other
module it reports the first violation.** An import is named there by its two names, and a local
function by its index in the joint numbering. -/
theorem resolve_reports_first (m : Module) (bodies : Nat) :
    (m.resolve bodies = .ok () ↔ m.Consistent ∧ bodies = m.functions.length) ∧
    (∀ e, m.resolve bodies = .error e ↔ Outcome.First m.Violates (m.references bodies) e) ∧
    (∀ (number signature : UInt32) (count : Nat),
      m.resolve bodies = .error (.unknownSignature (.function number.toNat) signature count) →
        m.signatureIndex? number = some signature) ∧
    (∀ moduleName name, (SignatureUser.importing moduleName name).label =
      "import " ++ moduleName ++ "." ++ name) ∧
    ∀ number, (SignatureUser.function number).label = "function " ++ toString number := by
  refine ⟨resolve_eq_ok_iff, fun e => resolve_eq_error_iff, ?_, fun _ _ => rfl, fun _ => rfl⟩
  intro number signature count failed
  obtain ⟨reference, mem, violates⟩ := (resolve_eq_error_iff.1 failed).exists_mem
  -- the error names a function, so the reference at fault is that of a local one
  generalize named : SignatureUser.function number.toNat = user at violates
  cases violates with
  | imported => cases named
  | defined =>
    obtain rfl := SignatureUser.function.inj named
    exact signatureIndex?_of_mem_references mem

/-- The second local function is at fault, and so are the export and the number of bodies. -/
def dangling : Module where
  signatures := [⟨[], []⟩]
  imports := [⟨"env", "t", .table ⟨0x70, ⟨1, none⟩⟩⟩, ⟨"env", "f", .function 0⟩]
  functions := [0, 4]
  exports := [⟨"t", .table, 1⟩]

/-- The function is reported, as number 2, for one function is imported. -/
theorem resolve_reports_first_dangling :
    dangling.resolve 1 = .error (.unknownSignature (.function (2 : UInt32).toNat) 4 1) ∧
    Outcome.First dangling.Violates (dangling.references 1)
      (.unknownSignature (.function (2 : UInt32).toNat) 4 1) ∧
    dangling.signatureIndex? 2 = some 4 := by
  have failed :
      dangling.resolve 1 = .error (.unknownSignature (.function (2 : UInt32).toNat) 4 1) := rfl
  obtain ⟨_, first, joint, _⟩ := resolve_reports_first dangling 1
  exact ⟨failed, (first _).1 failed, joint 2 4 1 failed⟩

end Module

end WasmBindings
