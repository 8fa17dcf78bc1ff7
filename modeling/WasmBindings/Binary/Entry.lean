import WasmBindings.Binary.Section

/-!
# The entries of sections

One reader for each kind of entry, and one for the payload of each kind of section that holds a
vector of them.
-/

namespace WasmBindings.Reader

/-- A value type. -/
def valueType : Reader ValueType := return .ofTag (← byte)

/-- A signature: the form `0x60`, then the parameters and the results. -/
def signature : Reader Signature := do
  let start ← offset
  let form ← byte
  if form ≠ 0x60 then throw (.badTypeForm form start)
  else
    let parameters ← vector valueType
    let results ← vector valueType
    return ⟨parameters, results⟩

/-- A bound of a table or memory: 64 bits wide if `wide`, else 32. -/
def bound (wide : Bool) : Reader UInt64 :=
  if wide then u64 else return (← u32).toUInt64

/-- Bounds. Of the flags, bit 0 says that a maximum follows, bit 1 that a memory is shared, and
bit 2 that the bounds are 64 bits wide; no other bit may be set. -/
def limits : Reader Limits := do
  let start ← offset
  let flags ← byte
  if flags > 7 then throw (.badLimits flags start)
  else
    let wide := flags &&& 4 != 0
    let min ← bound wide
    if flags &&& 1 = 0 then return ⟨min, none⟩
    else
      let max ← bound wide
      return ⟨min, some max⟩

/-- A table. -/
def table : Reader TableType := do
  let element ← byte
  let limits ← limits
  return ⟨element, limits⟩

/-- A global's type: what it holds, then 0 if it is constant and 1 if it may change. -/
def globalType : Reader GlobalType := do
  let value ← valueType
  let start ← offset
  let tag ← byte
  if tag = 0 then return ⟨value, false⟩
  else if tag = 1 then return ⟨value, true⟩
  else throw (.badKind .mutability tag start)

/-- What an import asks for. -/
def importKind : Reader ImportKind := do
  let start ← offset
  let tag ← byte
  if tag = 0 then return .function (← u32)
  else if tag = 1 then return .table (← table)
  else if tag = 2 then return .memory (← limits)
  else if tag = 3 then return .global (← globalType)
  else throw (.badKind .importKind tag start)

/-- An import. -/
def importEntry : Reader Import := do
  let moduleName ← name
  let name ← name
  let kind ← importKind
  return ⟨moduleName, name, kind⟩

/-- The index space that the tag of an export selects. -/
def exportSpace? (tag : UInt8) : Option IndexSpace :=
  if tag = 0 then some .function
  else if tag = 1 then some .table
  else if tag = 2 then some .memory
  else if tag = 3 then some .global
  else none

/-- An export. The tag is judged only after the index has been read. -/
def exportEntry : Reader Export := do
  let name ← name
  let start ← offset
  let tag ← byte
  let index ← u32
  match exportSpace? tag with
  | some space => return ⟨name, space, index⟩
  | none => throw (.badKind .exportKind tag start)

/-! ## Payloads -/

/-- The signatures of a module. -/
def signatures : Reader (List Signature) := vector signature

/-- The imports of a module. -/
def imports : Reader (List Import) := vector importEntry

/-- The signature index of each function. -/
def functions : Reader (List UInt32) := vector u32

/-- The tables of a module. -/
def tables : Reader (List TableType) := vector table

/-- The memories of a module. -/
def memories : Reader (List Limits) := vector limits

/-- The exports of a module. -/
def exports : Reader (List Export) := vector exportEntry

end WasmBindings.Reader
