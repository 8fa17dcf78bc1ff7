import WasmBindings.Proofs.Bindings.Surface

/-!
# Why declarations fail

Emitting the declarations of a module looks at the functions that it imports from the caller's
module, in import order, and then at the functions that it exports, in export order; nothing else
can be at fault (`Module.scanned`). What can be wrong with one of them is said by
`Module.Offends`: its index dangles, the signature behind the index is missing, or the signature has
no counterpart on the host (`Signature.Offends`), of which there are three kinds. None of this
mentions how the surface is put together. A module may be put together by hand, so an export can
also lead to an import whose own index dangles.

Each part of the surface has exactly the errors of the entries that it is made from, and a row of
work stops at its first error, so the declarations fail with the first error there is.
-/

namespace WasmBindings

/-- A value type that the host has no number for. -/
def ValueType.IsNumber (t : ValueType) : Prop := ∀ tag, t ≠ .other tag

/-- What can be wrong with a signature: the first parameter that is no number; if there is none,
several results; and if there is one result, that it is no number. -/
inductive Signature.Offends (s : Signature) : MappingError → Prop
  | parameter {before after : List ValueType} {tag : UInt8}
      (split : s.parameters = before ++ .other tag :: after)
      (first : ∀ t ∈ before, t.IsNumber) : Offends s (.unsupportedType tag)
  | results (numbers : ∀ t ∈ s.parameters, t.IsNumber) (several : 2 ≤ s.results.length) :
      Offends s (.multiValueReturn s.results.length)
  | result {tag : UInt8} (numbers : ∀ t ∈ s.parameters, t.IsNumber)
      (single : s.results = [.other tag]) : Offends s (.unsupportedType tag)

/-- What the surface is made from. -/
inductive SurfaceEntry where
  | supplied (i : Import)
  | offered (x : Export)

namespace Module

/-- The entries that have a signature, in the order in which they are looked at: the functions
imported from the caller's module, then the exported functions. -/
def scanned (m : Module) : List SurfaceEntry :=
  (m.imports.filter fun i =>
      i.moduleName = callerModule ∧ i.kind.space = .function).map .supplied ++
    (m.exports.filter fun x => x.space = .function).map .offered

/-- What can be wrong with an entry. -/
inductive Offends (m : Module) : SurfaceEntry → SurfaceError → Prop
  | importDangles {i : Import} {index : UInt32} (asks : i.kind = .function index)
      (beyond : m.signatures.length ≤ index.toNat) :
      Offends m (.supplied i) (.unresolved
        (.unknownSignature (.importing i.moduleName i.name) index m.signatures.length))
  | importUnmapped {i : Import} {index : UInt32} {s : Signature} {e : MappingError}
      (asks : i.kind = .function index) (found : m.signatures[index.toNat]? = some s)
      (offends : s.Offends e) : Offends m (.supplied i) (.mapping e)
  | exportDangles {x : Export} (beyond : m.spaceSize .function ≤ x.index.toNat) :
      Offends m (.offered x) (.unresolved
        (.unknownExportIndex x.name .function x.index (m.spaceSize .function)))
  | exportUnresolved {x : Export} {index : UInt32}
      (numbered : m.signatureIndex? x.index = some index)
      (beyond : m.signatures.length ≤ index.toNat) :
      Offends m (.offered x) (.unresolved
        (.unknownSignature (.function x.index.toNat) index m.signatures.length))
  | exportUnmapped {x : Export} {index : UInt32} {s : Signature} {e : MappingError}
      (numbered : m.signatureIndex? x.index = some index)
      (found : m.signatures[index.toNat]? = some s) (offends : s.Offends e) :
      Offends m (.offered x) (.mapping e)

end Module

/-! ## Signatures -/

theorem ValueType.hostType_eq_error_iff {t : ValueType} {e : MappingError} :
    t.hostType = .error e ↔ ∃ tag, t = .other tag ∧ e = .unsupportedType tag := by
  cases t <;> simp [hostType, eq_comm]

theorem ValueType.isNumber_iff {t : ValueType} : t.IsNumber ↔ ∀ e, t.hostType ≠ .error e := by
  cases t <;> simp [IsNumber, hostType]

theorem hostResult_eq_error_iff {results : List ValueType} {e : MappingError} :
    hostResult results = .error e ↔
      (2 ≤ results.length ∧ e = .multiValueReturn results.length) ∨
        ∃ tag, results = [.other tag] ∧ e = .unsupportedType tag := by
  match results with
  | [] => simp [hostResult]
  | [t] => simp [hostResult, ValueType.hostType_eq_error_iff]
  | _ :: _ :: _ => simp [hostResult, eq_comm]

namespace Signature

/-- A parameter is at fault if it is the first that is no number. -/
theorem first_parameter_iff {parameters : List ValueType} {e : MappingError} :
    Outcome.First (fun t e => t.hostType = .error e) parameters e ↔
      ∃ before tag after, parameters = before ++ .other tag :: after ∧
        (∀ t ∈ before, t.IsNumber) ∧ e = .unsupportedType tag := by
  simp only [Outcome.First, ValueType.isNumber_iff, ValueType.hostType_eq_error_iff, ne_eq]
  constructor
  · intro given
    obtain ⟨before, _, after, split, sound, tag, rfl, rfl⟩ := given
    exact ⟨before, tag, after, split, sound, rfl⟩
  · intro given
    obtain ⟨before, tag, after, split, sound, rfl⟩ := given
    exact ⟨before, _, after, split, sound, tag, rfl, rfl⟩

/-- A signature has a counterpart on the host unless something is wrong with it. -/
theorem host_eq_error_iff {s : Signature} {e : MappingError} : s.host = .error e ↔ s.Offends e := by
  have numbers : (∃ types, s.parameters.mapM ValueType.hostType = .ok types) ↔
      ∀ t ∈ s.parameters, t.IsNumber := by
    simp only [Outcome.exists_ok_iff, ne_eq, Outcome.mapM_eq_error_iff,
      Outcome.forall_not_first_iff, ValueType.isNumber_iff]
  unfold host
  rw [Outcome.bind_eq_error_iff, Outcome.mapM_eq_error_iff, first_parameter_iff]
  simp only [Outcome.bind_pure_eq_error_iff]
  rw [exists_and_right, numbers, hostResult_eq_error_iff]
  constructor
  · intro given
    rcases given with ⟨before, tag, after, split, first, rfl⟩ | ⟨numbers, several | single⟩
    · exact .parameter split first
    · obtain ⟨several, rfl⟩ := several
      exact .results numbers several
    · obtain ⟨tag, single, rfl⟩ := single
      exact .result numbers single
  · intro offends
    cases offends with
    | parameter split first => exact .inl ⟨_, _, _, split, first, rfl⟩
    | results numbers several => exact .inr ⟨numbers, .inl ⟨several, rfl⟩⟩
    | result numbers single => exact .inr ⟨numbers, .inr ⟨_, single, rfl⟩⟩

end Signature

/-! ## Entries -/

namespace Module

variable {m : Module} {e : SurfaceError}

theorem signature?_eq_none_iff {index : UInt32} :
    m.signature? index = none ↔ m.signatures.length ≤ index.toNat :=
  List.getElem?_eq_none_iff

/-- A function of the surface is in error if its signature is missing or has no counterpart. -/
theorem method_eq_error_iff {user : SignatureUser} {name : String} {index : UInt32} :
    m.method user name index = .error e ↔
      (m.signatures.length ≤ index.toNat ∧
        e = .unresolved (.unknownSignature user index m.signatures.length)) ∨
      ∃ s unmapped, m.signatures[index.toNat]? = some s ∧ s.Offends unmapped ∧
        e = .mapping unmapped := by
  rw [← signature?_eq_none_iff]
  change _ ↔ _ ∨ ∃ s unmapped, m.signature? index = some s ∧ _
  unfold method
  cases m.signature? index with
  | none => simp [eq_comm]
  | some s =>
    simp only [← Signature.host_eq_error_iff, Option.some.injEq, exists_and_left, exists_eq_left']
    cases s.host <;> simp [eq_comm]

theorem offends_supplied_iff {i : Import} : m.Offends (.supplied i) e ↔
    ∃ index, i.kind = .function index ∧
      m.method (.importing i.moduleName i.name) i.name index = .error e := by
  simp only [method_eq_error_iff]
  constructor
  · intro offends
    cases offends with
    | importDangles asks beyond => exact ⟨_, asks, .inl ⟨beyond, rfl⟩⟩
    | importUnmapped asks found offends => exact ⟨_, asks, .inr ⟨_, _, found, offends, rfl⟩⟩
  · intro given
    rcases given with ⟨index, asks, ⟨beyond, rfl⟩ | ⟨s, unmapped, found, offends, rfl⟩⟩
    · exact .importDangles asks beyond
    · exact .importUnmapped asks found offends

theorem offends_offered_iff {x : Export} : m.Offends (.offered x) e ↔
    (m.signatureIndex? x.index = none ∧ e = .unresolved
      (.unknownExportIndex x.name .function x.index (m.spaceSize .function))) ∨
    ∃ index, m.signatureIndex? x.index = some index ∧
      m.method (.function x.index.toNat) x.name index = .error e := by
  simp only [method_eq_error_iff, signatureIndex?_eq_none_iff]
  constructor
  · intro offends
    cases offends with
    | exportDangles beyond => exact .inl ⟨beyond, rfl⟩
    | exportUnresolved numbered beyond => exact .inr ⟨_, numbered, .inl ⟨beyond, rfl⟩⟩
    | exportUnmapped numbered found offends =>
      exact .inr ⟨_, numbered, .inr ⟨_, _, found, offends, rfl⟩⟩
  · intro given
    rcases given with ⟨beyond, rfl⟩ | ⟨index, numbered, ⟨beyond, rfl⟩ | ⟨s, _, found, offends, rfl⟩⟩
    · exact .exportDangles beyond
    · exact .exportUnresolved numbered beyond
    · exact .exportUnmapped numbered found offends

/-- An import is in error if it asks the caller for a function and something is wrong with that. -/
theorem suppliedMember_fails_iff {i : Import} : m.suppliedMember i = .error e ↔
    decide (i.moduleName = callerModule ∧ i.kind.space = .function) ∧
      m.Offends (.supplied i) e := by
  simp only [suppliedMember_eq_error_iff, supplied?_eq_some_iff, decide_eq_true_eq,
    offends_supplied_iff]
  constructor
  · intro given
    obtain ⟨index, ⟨caller, asks⟩, failed⟩ := given
    exact ⟨⟨caller, by rw [asks]; rfl⟩, index, asks, failed⟩
  · intro given
    obtain ⟨⟨caller, _⟩, index, asks, failed⟩ := given
    exact ⟨index, ⟨caller, asks⟩, failed⟩

/-- An export is in error if it is a function and something is wrong with that. -/
theorem offeredMember_fails_iff {x : Export} : m.offeredMember x = .error e ↔
    decide (x.space = .function) ∧ m.Offends (.offered x) e := by
  rw [offeredMember_eq_error_iff, decide_eq_true_eq, offends_offered_iff]

/-! ## Surfaces -/

/-- The surface has the first error of the entries that it is made from. -/
theorem surface_eq_error_iff : m.surface = .error e ↔ Outcome.First m.Offends m.scanned e := by
  unfold surface scanned
  rw [Outcome.bind_eq_error_iff, Outcome.first_append_iff, ← Outcome.forall_not_first_iff]
  simp only [Outcome.bind_pure_eq_error_iff]
  rw [exists_and_right, Outcome.exists_ok_iff]
  simp only [ne_eq, Outcome.mapM_eq_error_iff, Outcome.first_map_iff, Outcome.first_filter_iff,
    suppliedMember_fails_iff, offeredMember_fails_iff]

/-- **Declarations fail with the first error of the functions that they are about,** and they are
emitted if there is none. -/
theorem declarations_fail_first (m : Module) (mode : Mode) :
    (∀ e, m.declarations mode = .error e ↔ Outcome.First m.Offends m.scanned e) ∧
    ((∃ text, m.declarations mode = .ok text) ↔ ∀ entry ∈ m.scanned, ∀ e, ¬ m.Offends entry e) := by
  have fails (e : SurfaceError) :
      m.declarations mode = .error e ↔ Outcome.First m.Offends m.scanned e := by
    rw [← surface_eq_error_iff]
    exact Outcome.bind_pure_eq_error_iff
  refine ⟨fails, ?_⟩
  rw [Outcome.exists_ok_iff, ← Outcome.forall_not_first_iff]
  simp only [ne_eq, fails]

-- an export leads to an import that the caller does not supply, and whose index dangles
example : declarations
    { imports := [⟨"wasi", "f", .function 7⟩], exports := [⟨"g", .function, 0⟩] } .sync =
    .error (.unresolved (.unknownSignature (.function 0) 7 0)) := rfl

end Module

end WasmBindings
