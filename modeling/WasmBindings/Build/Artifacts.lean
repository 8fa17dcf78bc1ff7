import WasmBindings.Binary.Trace
import WasmBindings.Bindings.Wrapper
import WasmBindings.Build.Error

/-!
# Artifacts

What is made of a binary: the binary itself, or a wrapper with or without declarations. A wrapper
is made only of a binary that can be read as a module, and declarations only beside a wrapper.
-/

namespace WasmBindings

/-- Which artifacts are wanted; without a wrapper, the binary as it is. -/
structure Output where
  wrapper : Option Mode := none
  declarations : Bool := false
  deriving DecidableEq, Repr, Inhabited

/-- The artifacts of a binary. -/
inductive Artifacts where
  | binary (contents : Bytes)
  | bindings (wrapper : Wrapper) (declarations : Option String)
  deriving DecidableEq, Repr

/-- Makes the wanted artifacts of a binary. -/
def Artifacts.generate (binary : Bytes) (output : Output) : Except BuildError Artifacts :=
  match output.wrapper with
  | none =>
    if output.declarations then .error .declarationsWithoutWrapper else .ok (.binary binary)
  | some mode => do
    let m ← (Module.decode binary).mapError .format
    let declarations ←
      if output.declarations then
        some <$> (m.declarations mode).mapError .ofSurface
      else pure none
    return .bindings (.make binary mode) declarations

/-- The record of a module that has been read. -/
def Module.record (m : Module) : LogRecord :=
  ⟨.debug, s!"parsed module: {m.signatures.length} type(s), {m.imports.length} import(s), " ++
    s!"{m.functions.length} function(s), {m.exports.length} export(s)"⟩

/-- What making the artifacts reports. -/
def Artifacts.generateLog (binary : Bytes) (output : Output) : Log :=
  match output.wrapper with
  | none => []
  | some _ =>
    Module.decodeLog binary ++
      match Module.decode binary with
      | .error _ => []
      | .ok m => m.record :: if output.declarations then m.declarationsLog else []

end WasmBindings
