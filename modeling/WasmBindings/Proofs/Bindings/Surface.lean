import Mathlib
import WasmBindings.Bindings.Declarations
import WasmBindings.Proofs.Binary.Decode
import WasmBindings.Proofs.Module.Functions

/-!
# The surface of a decoded module

Decoding has checked every index of the module it gives. So whatever looks an index up in such a
module finds something: the numbering of functions, the lists of exported and imported functions,
and the surface, which can fail only because a type has no counterpart on the host.
-/

namespace WasmBindings.Module

/-- A function of the surface is unresolved exactly if its signature is missing. -/
theorem method_eq_unresolved_iff {m : Module} {user : SignatureUser} {name : String}
    {index : UInt32} {e : FormatError} : m.method user name index = .error (.unresolved e) ↔
      m.signature? index = none ∧ e = .unknownSignature user index m.signatures.length := by
  unfold method
  cases m.signature? index with
  | none => simp [eq_comm]
  | some signature =>
    dsimp only
    cases signature.host <;> simp

theorem suppliedMember_eq_error_iff {m : Module} {i : Import} {e : SurfaceError} :
    m.suppliedMember i = .error e ↔ ∃ index, i.supplied? = some index ∧
      m.method (.importing i.moduleName i.name) i.name index = .error e := by
  unfold suppliedMember
  cases i.supplied? with
  | none => simp
  | some index => simp [Outcome.map_eq_error_iff]

theorem supplied?_eq_some_iff {i : Import} {index : UInt32} :
    i.supplied? = some index ↔ i.moduleName = callerModule ∧ i.kind = .function index := by
  unfold Import.supplied?
  cases i.kind <;> simp [ImportKind.signature?]

/-- An offered function is in error if its index is, or what stands at it. -/
theorem offeredMember_eq_error_iff {m : Module} {x : Export} {e : SurfaceError} :
    m.offeredMember x = .error e ↔ x.space = .function ∧
      ((m.signatureIndex? x.index = none ∧ e = .unresolved
        (.unknownExportIndex x.name .function x.index (m.spaceSize .function))) ∨
      ∃ index, m.signatureIndex? x.index = some index ∧
        m.method (.function x.index.toNat) x.name index = .error e) := by
  unfold offeredMember
  cases x.space with
  | function =>
    cases m.signatureIndex? x.index with
    | none => simp [eq_comm]
    | some index => simp [Outcome.map_eq_error_iff]
  | _ => simp

/-- The surface of a consistent module fails only over types. -/
theorem Consistent.surface_ne_unresolved {m : Module} (h : m.Consistent) (e : FormatError) :
    m.surface ≠ .error (.unresolved e) := by
  intro failed
  unfold surface at failed
  rcases Outcome.bind_eq_error_iff.1 failed with supplied | ⟨_, _, failed⟩
  · obtain ⟨i, hi, failed⟩ := (Outcome.mapM_eq_error_iff.1 supplied).exists_mem
    obtain ⟨index, hs, failed⟩ := suppliedMember_eq_error_iff.1 failed
    have found := h.signature_isSome_of_import hi (supplied?_eq_some_iff.1 hs).2
    -- the error would mean that this signature is missing
    rw [(method_eq_unresolved_iff.1 failed).1] at found
    cases found
  · rcases Outcome.bind_eq_error_iff.1 failed with offered | ⟨_, _, none⟩
    · obtain ⟨x, hx, failed⟩ := (Outcome.mapM_eq_error_iff.1 offered).exists_mem
      obtain ⟨function, failed⟩ := offeredMember_eq_error_iff.1 failed
      have small := h.exports x hx
      rw [function] at small
      have found := h.functionSignature_isSome small
      -- the index leads to a signature, so neither lookup on the way has failed
      unfold functionSignature? at found
      rcases failed with ⟨missing, _⟩ | ⟨index, hs, failed⟩
      · rw [missing] at found
        cases found
      · rw [hs, Option.bind_some, (method_eq_unresolved_iff.1 failed).1] at found
        cases found
    · cases none

/-- **Every index of a decoded module resolves, and no query on it loses anything.** The signature
of a function is the one that its entry in the joint numbering names. -/
theorem decode_resolves {m : Module} {binary : Bytes} (h : decode binary = .ok m) :
    (∀ index : UInt32, index.toNat < m.spaceSize .function →
      (m.functionSignature? index).isSome) ∧
    (∀ (index : UInt32) (s : Signature), m.functionSignature? index = some s ↔
      ∃ k, m.FunctionAt index.toNat k ∧ m.signatures[k.toNat]? = some s) ∧
    m.exportedFunctions.map (fun p => (p.1, some p.2)) =
      (m.exports.filter (·.space = .function)).map
        (fun e => (e, m.functionSignature? e.index)) ∧
    m.importedSignatures.map (fun p => (p.1, some p.2)) =
      (m.imports.filter (·.kind.space = .function)).map
        (fun i => (i, i.kind.signature?.bind fun k => m.signatures[k.toNat]?)) ∧
    (∀ e ∈ m.exports, e.index.toNat < m.spaceSize e.space) ∧
    ∀ mode e, m.declarations mode ≠ .error (.unresolved e) := by
  obtain ⟨_, _, _, _, _, consistent⟩ := spelledBy_of_decode h
  refine ⟨fun _ => consistent.functionSignature_isSome,
    fun _ _ => functionSignature?_eq_some_iff, consistent.exportedFunctions_eq,
    consistent.importedSignatures_eq, consistent.exports, fun mode e failed => ?_⟩
  rcases Outcome.bind_eq_error_iff.1 failed with failed | ⟨_, _, none⟩
  -- rendering cannot fail, so the error is one of the surface
  · exact consistent.surface_ne_unresolved e failed
  · cases none

/-- A module whose function import stands between imports of other kinds: function 1 is the first
one that is defined in it. -/
theorem decode_resolves_interleaved :
    ∃ m, decode (header ++ [
        0x01, 0x09, 0x02, 0x60, 0x01, 0x7f, 0x00, 0x60, 0x00, 0x01, 0x7f,
        0x02, 0x1f, 0x03,
          0x03, 0x65, 0x6e, 0x76, 0x03, 0x6d, 0x65, 0x6d, 0x02, 0x00, 0x01,
          0x03, 0x65, 0x6e, 0x76, 0x03, 0x6c, 0x6f, 0x67, 0x00, 0x00,
          0x03, 0x65, 0x6e, 0x76, 0x01, 0x67, 0x03, 0x7f, 0x01,
        0x03, 0x02, 0x01, 0x01,
        0x07, 0x0d, 0x02,
          0x03, 0x72, 0x75, 0x6e, 0x00, 0x01,
          0x03, 0x6d, 0x65, 0x6d, 0x02, 0x00,
        0x0a, 0x04, 0x01, 0x02, 0x00, 0x0b]) = .ok m ∧
      m.spaceSize .function = 2 ∧ (m.functionSignature? 1).isSome ∧
      m.functionSignature? 0 = some ⟨[.i32], []⟩ ∧ m.functionSignature? 1 = some ⟨[], [.i32]⟩ ∧
      m.exportedFunctions.map (fun p => (p.1, some p.2)) =
        [(⟨"run", .function, 1⟩, some ⟨[], [.i32]⟩)] ∧
      m.importedSignatures.map (fun p => (p.1, some p.2)) =
        [(⟨"env", "log", .function 0⟩, some ⟨[.i32], []⟩)] ∧
      (∀ e ∈ m.exports, e.index.toNat < m.spaceSize e.space) ∧
      ∀ mode e, m.declarations mode ≠ .error (.unresolved e) := by
  let m : Module := {
    signatures := [⟨[.i32], []⟩, ⟨[], [.i32]⟩]
    imports := [⟨"env", "mem", .memory ⟨1, none⟩⟩, ⟨"env", "log", .function 0⟩,
      ⟨"env", "g", .global ⟨.i32, true⟩⟩]
    functions := [1]
    exports := [⟨"run", .function, 1⟩, ⟨"mem", .memory, 0⟩] }
  suffices h : decode _ = .ok m by
    obtain ⟨functions, signatures, exported, imported, exports, resolved⟩ := decode_resolves h
    -- one import of another kind stands in front of the function, and one behind it
    have asked : m.functionSignature? 0 = some ⟨[.i32], []⟩ :=
      (signatures 0 _).2 ⟨0, .imported ⟨[⟨"env", "mem", .memory ⟨1, none⟩⟩],
        ⟨"env", "log", .function 0⟩, [⟨"env", "g", .global ⟨.i32, true⟩⟩], rfl, rfl, rfl⟩, rfl⟩
    have own : m.functionSignature? 1 = some ⟨[], [.i32]⟩ :=
      (signatures 1 _).2 ⟨1, .defined (k := 0) rfl, rfl⟩
    exact ⟨m, h, rfl, functions 1 (by decide), asked, own, exported, imported, exports, resolved⟩
  cbv

end WasmBindings.Module
