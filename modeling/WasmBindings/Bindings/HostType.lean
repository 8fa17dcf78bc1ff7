import WasmBindings.Module.Listing

/-!
# Host types

How the values of a module look from the host: every number is a `number`, whatever its width, and
a function without results returns `void`. Other value types have no host type, and neither has a
function with several results.
-/

namespace WasmBindings

/-- A type on the host's side; `void` is a result only. -/
inductive HostType where
  | number
  | void
  deriving DecidableEq, Repr, Inhabited

/-- The spelling of a host type. -/
def HostType.text : HostType → String
  | number => "number"
  | void => "void"

/-- Why a signature has no counterpart on the host. -/
inductive MappingError where
  | unsupportedType (tag : UInt8)
  | multiValueReturn (count : Nat)
  deriving DecidableEq, Repr

/-- The wording of an error. -/
def MappingError.message : MappingError → String
  | unsupportedType tag => s!"unsupported value type 0x{Hex.ofByte tag}"
  | multiValueReturn count => s!"unsupported multi-value return of {count} results"

/-- The host type of a value. -/
def ValueType.hostType : ValueType → Except MappingError HostType
  | i32 | i64 | f32 | f64 => .ok .number
  | other tag => .error (.unsupportedType tag)

/-- The host type of what a function returns. -/
def hostResult : List ValueType → Except MappingError HostType
  | [] => .ok .void
  | [result] => result.hostType
  | results => .error (.multiValueReturn results.length)

/-- A signature in host types. -/
structure HostSignature where
  parameters : List HostType
  result : HostType
  deriving DecidableEq, Repr, Inhabited

/-- A signature in host types, unless some type has none: the first such parameter is reported, and
the results only if there is none. -/
def Signature.host (s : Signature) : Except MappingError HostSignature := do
  let parameters ← s.parameters.mapM ValueType.hostType
  let result ← hostResult s.results
  return ⟨parameters, result⟩

end WasmBindings
