import WasmBindings.Bindings.HostType
import WasmBindings.Module.Resolve

/-!
# The host surface of a module

What a module demands of a caller and offers to it, in host types: the functions it imports from
`env`, which the caller supplies, and the functions and memories it exports. Tables and globals are
no part of the surface. All other imports are left to the host runtime; they are kept in a list of
their own, because the declarations mention them.

Any index that dangles, and any signature without a host counterpart, is an error; the first one in
the order of imports, then exports, is reported.
-/

namespace WasmBindings

/-- Why a module has no surface. -/
inductive SurfaceError where
  | mapping (error : MappingError)
  | unresolved (error : FormatError)
  deriving DecidableEq, Repr

/-- The wording of an error. -/
def SurfaceError.message : SurfaceError → String
  | mapping error => error.message
  | unresolved error => error.message

/-- The module whose functions the caller supplies. -/
def callerModule : String := "env"

/-- A member of the surface. -/
inductive Member where
  | method (name : String) (signature : HostSignature)
  | memory (name : String)
  deriving DecidableEq, Repr, Inhabited

/-- What the caller supplies, what it gets, and the imports that are not its concern. -/
structure Surface where
  supplied : List Member := []
  offered : List Member := []
  omitted : List Import := []
  deriving DecidableEq, Repr, Inhabited

/-- The signature index of an import that the caller supplies. -/
def Import.supplied? (i : Import) : Option UInt32 :=
  if i.moduleName = callerModule then i.kind.signature? else none

namespace Module

/-- A function of the surface, by the index of its signature. -/
def method (m : Module) (user : SignatureUser) (name : String) (index : UInt32) :
    Except SurfaceError Member :=
  match m.signature? index with
  | none => .error (.unresolved (.unknownSignature user index m.signatures.length))
  | some signature =>
    match signature.host with
    | .error e => .error (.mapping e)
    | .ok host => .ok (.method name host)

/-- The member that an import asks the caller for. -/
def suppliedMember (m : Module) (i : Import) : Except SurfaceError (Option Member) :=
  match i.supplied? with
  | none => .ok none
  | some index => some <$> m.method (.importing i.moduleName i.name) i.name index

/-- The member that an export offers. -/
def offeredMember (m : Module) (e : Export) : Except SurfaceError (Option Member) :=
  match e.space with
  | .function =>
    match m.signatureIndex? e.index with
    | none =>
      .error (.unresolved
        (.unknownExportIndex e.name .function e.index (m.spaceSize .function)))
    | some index => some <$> m.method (.function e.index.toNat) e.name index
  | .memory => .ok (some (.memory e.name))
  | .table | .global => .ok none

/-- The surface of a module. -/
def surface (m : Module) : Except SurfaceError Surface := do
  let supplied ← m.imports.mapM m.suppliedMember
  let offered ← m.exports.mapM m.offeredMember
  return {
    supplied := supplied.filterMap id
    offered := offered.filterMap id
    omitted := m.imports.filter (·.supplied?.isNone) }

end Module

end WasmBindings
