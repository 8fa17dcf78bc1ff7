import WasmBindings.Module.IndexSpace
import WasmBindings.Binary.Error

/-!
# Resolving indices

A module is consistent when every index in it names something and every function has a body. The
check reports the first offence: imports before functions, then the number of bodies, then exports.
-/

namespace WasmBindings

/-- Succeeds if `p` holds, and fails with `e` otherwise. -/
def require (p : Prop) [Decidable p] (e : ε) : Except ε Unit :=
  if p then .ok () else .error e

namespace Module

/-- Checks that a signature index is in range. -/
def requireSignature (m : Module) (user : SignatureUser) (index : UInt32) :
    Except FormatError Unit :=
  require (index.toNat < m.signatures.length)
    (.unknownSignature user index m.signatures.length)

/-- Checks an import: a function has to name a signature. -/
def resolveImport (m : Module) (i : Import) : Except FormatError Unit :=
  match i.kind with
  | .function index => m.requireSignature (.importing i.moduleName i.name) index
  | _ => .ok ()

/-- Checks a function defined in the module, which is number `index` of its space. -/
def resolveFunction (m : Module) (index : Nat) (signature : UInt32) : Except FormatError Unit :=
  m.requireSignature (.function index) signature

/-- Checks an export: its index has to lie in the space. -/
def resolveExport (m : Module) (e : Export) : Except FormatError Unit :=
  require (e.index.toNat < m.spaceSize e.space)
    (.unknownExportIndex e.name e.space e.index (m.spaceSize e.space))

/-- Checks a module that came with the given number of function bodies. -/
def resolve (m : Module) (bodies : Nat) : Except FormatError Unit := do
  m.imports.forM m.resolveImport
  (m.functions.zipIdx (m.importedCount .function)).forM fun (signature, index) =>
    m.resolveFunction index signature
  require (bodies = m.functions.length) (.functionBodyMismatch m.functions.length bodies)
  m.exports.forM m.resolveExport

end Module

end WasmBindings
