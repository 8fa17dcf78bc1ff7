import WasmBindings.Module.Basic

/-!
# Index spaces

Each of the four kinds of entity has its own numbering: the imports of that kind first, in import
order, then the local definitions.
-/

namespace WasmBindings.Module

/-- How many imports join an index space; they take its low indices. -/
def importedCount (m : Module) (space : IndexSpace) : Nat :=
  m.imports.countP (·.kind.space = space)

/-- How many entities of a kind are defined in the module itself. -/
def localCount (m : Module) : IndexSpace → Nat
  | .function => m.functions.length
  | .table => m.tables.length
  | .memory => m.memories.length
  | .global => m.globalCount.toNat

/-- The number of indices in a space. -/
def spaceSize (m : Module) (space : IndexSpace) : Nat :=
  m.importedCount space + m.localCount space

/-- The signature indices of the imported functions. -/
def importedFunctions (m : Module) : List UInt32 :=
  m.imports.filterMap (·.kind.signature?)

/-- The signature index of a function in the joint numbering. -/
def signatureIndex? (m : Module) (index : UInt32) : Option UInt32 :=
  (m.importedFunctions ++ m.functions)[index.toNat]?

/-- A signature by its index. -/
def signature? (m : Module) (index : UInt32) : Option Signature :=
  m.signatures[index.toNat]?

/-- The signature of a function in the joint numbering. -/
def functionSignature? (m : Module) (index : UInt32) : Option Signature :=
  (m.signatureIndex? index).bind m.signature?

/-- The function exports whose signature resolves, each with it. -/
def exportedFunctions (m : Module) : List (Export × Signature) :=
  m.exports.filterMap fun e =>
    if e.space = .function then (m.functionSignature? e.index).map (e, ·) else none

/-- The memory exports. -/
def exportedMemories (m : Module) : List Export :=
  m.exports.filter (·.space = .memory)

/-- The function imports whose signature resolves, each with it. -/
def importedSignatures (m : Module) : List (Import × Signature) :=
  m.imports.filterMap fun i =>
    i.kind.signature?.bind fun index => (m.signature? index).map (i, ·)

end WasmBindings.Module
