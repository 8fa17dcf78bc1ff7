import Mathlib
import WasmBindings.Build.Artifacts
import WasmBindings.Proofs.Bindings.Surface

/-!
# What is made of a binary

With a wrapper there are four ways in which making the artifacts can end (`Artifacts.Outcome`): the
binary is no module, a type of its surface has no counterpart on the host, or there is a wrapper,
with or without declarations. An index that dangles cannot come up after decoding, so no error of
the format is left for the declarations to raise.

None of this depends on the mode. The declarations for the two modes are one text up to the last
arrow, behind which the factory returns its exports or a promise of them.
-/

namespace WasmBindings

/-- A word stands in a text behind some front, and nowhere further on. -/
def StandsLast (word front back : String) : Prop :=
  ∀ front' back', front ++ word ++ back = front' ++ word ++ back' → front'.length ≤ front.length

/-- A word that does not begin again behind its first character stands last. -/
theorem standsLast_of_not_infix {word front back : String}
    (once : ¬ word.toList <:+: (word ++ back).toList.tail) : StandsLast word front back := by
  intro front' back' same
  by_contra later
  have parts := congrArg String.toList same
  simp only [String.toList_append, List.append_assoc] at parts
  rcases List.append_eq_append_iff.1 parts with ⟨between, longer, rest⟩ | ⟨between, shorter, _⟩
  · cases between with
    | nil =>
      have length := congrArg List.length longer
      simp only [List.append_nil, String.length_toList] at length
      omega
    | cons c between =>
      -- the word begins again behind `c`, which is its first character here
      refine once ⟨between, back'.toList, ?_⟩
      rw [String.toList_append, rest]
      simp only [List.cons_append, List.tail_cons, List.append_assoc]
  · have length := congrArg List.length shorter
    simp only [List.length_append, String.length_toList] at length
    omega

namespace Declarations

/-- The declarations up to the arrow of the factory. -/
def beforeArrow (surface : Surface) : String :=
  comment surface.omitted ++ importsText surface.supplied ++ "\n" ++
    exportsText surface.offered ++ "\n" ++ "declare const instantiate: (imports: Imports) "

/-- The declarations behind what the factory returns. -/
def afterReturned : String := ";\nexport default instantiate;\n"

theorem render_eq (surface : Surface) (mode : Mode) :
    render surface mode =
      beforeArrow surface ++ "=> " ++ (returnedType mode ++ afterReturned) := by
  unfold render factoryText beforeArrow afterReturned
  rw [← String.toList_inj]
  simp only [String.toList_append, List.append_assoc]
  rfl

theorem arrow_standsLast (surface : Surface) (mode : Mode) :
    StandsLast "=> " (beforeArrow surface) (returnedType mode ++ afterReturned) := by
  apply standsLast_of_not_infix
  cases mode <;> decide +kernel

end Declarations

namespace Module

theorem declarations_of_surface {m : Module} {surface : Surface} (h : m.surface = .ok surface)
    (mode : Mode) : m.declarations mode = .ok (Declarations.render surface mode) := by
  unfold declarations
  rw [h]
  rfl

theorem declarations_of_surface_error {m : Module} {e : SurfaceError} (h : m.surface = .error e)
    (mode : Mode) : m.declarations mode = .error e := by
  unfold declarations
  rw [h]
  rfl

/-- The two declarations of a module: one error, or one text but for what stands behind the last
arrow. -/
theorem declarations_modes (m : Module) :
    (∃ e, ∀ mode, m.declarations mode = .error e) ∨
      ∃ front back, m.declarations .sync = .ok (front ++ "=> " ++ ("Exports" ++ back)) ∧
        m.declarations .async = .ok (front ++ "=> " ++ ("Promise<Exports>" ++ back)) ∧
        StandsLast "=> " front ("Exports" ++ back) ∧
        StandsLast "=> " front ("Promise<Exports>" ++ back) := by
  cases h : m.surface with
  | error e => exact .inl ⟨e, declarations_of_surface_error h⟩
  | ok surface =>
    refine .inr ⟨Declarations.beforeArrow surface, Declarations.afterReturned, ?_, ?_,
      Declarations.arrow_standsLast surface .sync, Declarations.arrow_standsLast surface .async⟩
    · rw [declarations_of_surface h, Declarations.render_eq]
      rfl
    · rw [declarations_of_surface h, Declarations.render_eq]
      rfl

end Module

namespace Artifacts

/-- How making a wrapper can end, without declarations or with them. -/
inductive Outcome (binary : Bytes) (mode : Mode) : Bool → Except BuildError Artifacts → Prop
  | malformed {declarations : Bool} {e : FormatError} : Module.decode binary = .error e →
      Outcome binary mode declarations (.error (.format e))
  | bare {m : Module} : Module.decode binary = .ok m →
      Outcome binary mode false (.ok (.bindings (.make binary mode) none))
  | unmapped {m : Module} {e : MappingError} : Module.decode binary = .ok m →
      m.surface = .error (.mapping e) → Outcome binary mode true (.error (.mapping e))
  | declared {m : Module} {surface : Surface} : Module.decode binary = .ok m →
      m.surface = .ok surface → Outcome binary mode true
        (.ok (.bindings (.make binary mode) (some (Declarations.render surface mode))))

theorem outcome_generate (binary : Bytes) (mode : Mode) (declarations : Bool) :
    Outcome binary mode declarations (generate binary ⟨some mode, declarations⟩) := by
  unfold generate
  dsimp only
  cases decoded : Module.decode binary with
  | error e => exact .malformed decoded
  | ok m =>
    cases declarations with
    | false => exact .bare decoded
    | true =>
      change Outcome binary mode true
        ((some <$> (m.declarations mode).mapError .ofSurface) >>= fun text =>
          pure (.bindings (.make binary mode) text))
      cases h : m.surface with
      | ok surface =>
        rw [Module.declarations_of_surface h]
        exact .declared decoded h
      | error e =>
        rw [Module.declarations_of_surface_error h]
        cases e with
        | mapping e => exact .unmapped decoded h
        | unresolved e =>
          -- the indices of a decoded module do not dangle
          obtain ⟨_, _, _, _, _, consistent⟩ := Module.spelledBy_of_decode decoded
          exact absurd h (consistent.surface_ne_unresolved e)

namespace Outcome

variable {binary : Bytes} {mode : Mode} {declarations : Bool} {result : Except BuildError Artifacts}

theorem eq_format_iff (h : Outcome binary mode declarations result) (e : FormatError) :
    result = .error (.format e) ↔ Module.decode binary = .error e := by
  cases h with
  | malformed decoded => simp [decoded]
  | bare decoded => simp [decoded]
  | unmapped decoded _ => simp [decoded]
  | declared decoded _ => simp [decoded]

theorem eq_mapping_iff (h : Outcome binary mode declarations result) (e : MappingError) :
    result = .error (.mapping e) ↔ declarations = true ∧ ∃ m, Module.decode binary = .ok m ∧
      m.declarations mode = .error (.mapping e) := by
  cases h with
  | malformed decoded => simp [decoded]
  | bare decoded => simp
  | unmapped decoded unmapped => simp [decoded, Module.declarations_of_surface_error unmapped]
  | declared decoded found => simp [decoded, Module.declarations_of_surface found]

theorem eq_ok_iff (h : Outcome binary mode declarations result) (a : Artifacts) :
    result = .ok a ↔ ∃ m, Module.decode binary = .ok m ∧
      ((declarations = false ∧ a = .bindings (.make binary mode) none) ∨
        (declarations = true ∧ ∃ text, m.declarations mode = .ok text ∧
          a = .bindings (.make binary mode) (some text))) := by
  cases h with
  | malformed decoded => simp [decoded]
  | bare decoded => simp [decoded, eq_comm]
  | unmapped decoded unmapped => simp [decoded, Module.declarations_of_surface_error unmapped]
  | declared decoded found => simp [decoded, Module.declarations_of_surface found, eq_comm]

theorem format_or_mapping {e : BuildError} (h : Outcome binary mode declarations (.error e)) :
    (∃ e', e = .format e') ∨ ∃ e', e = .mapping e' := by
  cases h with
  | malformed _ => exact .inl ⟨_, rfl⟩
  | unmapped _ _ => exact .inr ⟨_, rfl⟩

/-- What is wrong in one mode is wrong in the other. -/
theorem error_of_error {other : Mode} {e : BuildError}
    (h : Outcome binary mode declarations (.error e))
    (h' : Outcome binary other declarations result) : result = .error e := by
  cases h with
  | malformed decoded => exact (h'.eq_format_iff _).2 decoded
  | @unmapped m _ decoded unmapped =>
    exact (h'.eq_mapping_iff _).2
      ⟨rfl, m, decoded, Module.declarations_of_surface_error unmapped other⟩

end Outcome

/-- **Making artifacts is all or nothing:** with a wrapper it fails exactly if the binary is no
module or the declarations that are wanted do not exist, with their error, and gives the wrapper and
these declarations otherwise. -/
theorem generate_consistent (binary : Bytes) :
    (∀ mode declarations,
      (∀ e, generate binary ⟨some mode, declarations⟩ = .error (.format e) ↔
        Module.decode binary = .error e) ∧
      (∀ e, generate binary ⟨some mode, declarations⟩ = .error (.mapping e) ↔
        declarations = true ∧ ∃ m, Module.decode binary = .ok m ∧
          m.declarations mode = .error (.mapping e)) ∧
      (∀ e, generate binary ⟨some mode, declarations⟩ = .error e →
        (∃ e', e = .format e') ∨ ∃ e', e = .mapping e') ∧
      ∀ a, generate binary ⟨some mode, declarations⟩ = .ok a ↔
        ∃ m, Module.decode binary = .ok m ∧
          ((declarations = false ∧ a = .bindings (.make binary mode) none) ∨
            (declarations = true ∧ ∃ text, m.declarations mode = .ok text ∧
              a = .bindings (.make binary mode) (some text)))) ∧
    (∀ declarations mode mode' e, generate binary ⟨some mode, declarations⟩ = .error e ↔
      generate binary ⟨some mode', declarations⟩ = .error e) ∧
    (∀ m : Module, (∃ e, ∀ mode, m.declarations mode = .error e) ∨
      ∃ front back, m.declarations .sync = .ok (front ++ "=> " ++ ("Exports" ++ back)) ∧
        m.declarations .async = .ok (front ++ "=> " ++ ("Promise<Exports>" ++ back)) ∧
        StandsLast "=> " front ("Exports" ++ back) ∧
        StandsLast "=> " front ("Promise<Exports>" ++ back)) ∧
    generate binary ⟨none, false⟩ = .ok (.binary binary) ∧
    generate binary ⟨none, true⟩ = .error .declarationsWithoutWrapper := by
  refine ⟨fun mode declarations => ?_, fun declarations mode mode' e => ?_,
    Module.declarations_modes, rfl, rfl⟩
  · have ends := outcome_generate binary mode declarations
    refine ⟨ends.eq_format_iff, ends.eq_mapping_iff, fun e failed => ?_, ends.eq_ok_iff⟩
    rw [failed] at ends
    exact ends.format_or_mapping
  · have ends := outcome_generate binary mode declarations
    have ends' := outcome_generate binary mode' declarations
    constructor
    · intro failed
      rw [failed] at ends
      exact ends.error_of_error ends'
    · intro failed
      rw [failed] at ends'
      exact ends'.error_of_error ends

end Artifacts

end WasmBindings
