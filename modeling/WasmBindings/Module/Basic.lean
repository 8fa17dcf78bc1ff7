import WasmBindings.Bytes

/-!
# The interface of a module

What a WebAssembly module shows to the outside: its signatures, imports, local definitions and
exports, each in the order of the binary. Function bodies, initialisers and data are no part of
it.

A module is plain data. One that was read from a binary has all its indices in range; one put
together by hand need not, so every query says what it does with an index that dangles.
-/

namespace WasmBindings

/-- A value type: one of the four numbers, or any other type by its tag. -/
inductive ValueType where
  | i32
  | i64
  | f32
  | f64
  | other (tag : UInt8)
  deriving DecidableEq, Repr, Inhabited

namespace ValueType

/-- The type a tag stands for. Every tag has one. -/
def ofTag (tag : UInt8) : ValueType :=
  if tag = 0x7f then i32
  else if tag = 0x7e then i64
  else if tag = 0x7d then f32
  else if tag = 0x7c then f64
  else other tag

/-- The tag of a type. -/
def tag : ValueType → UInt8
  | i32 => 0x7f
  | i64 => 0x7e
  | f32 => 0x7d
  | f64 => 0x7c
  | other tag => tag

/-- A type is in normal form when no number type is spelled by its tag. -/
def Normal : ValueType → Prop
  | other tag => ofTag tag = other tag
  | _ => True

instance : DecidablePred Normal := fun t => by
  cases t <;> unfold Normal <;> infer_instance

@[simp] theorem tag_ofTag (tag : UInt8) : (ofTag tag).tag = tag := by
  unfold ofTag
  repeat' split
  all_goals simp_all [ValueType.tag]

theorem ofTag_tag {t : ValueType} (h : t.Normal) : ofTag t.tag = t := by
  cases t <;> first | rfl | exact h

end ValueType

/-- What a function takes and what it gives back. -/
structure Signature where
  parameters : List ValueType := []
  results : List ValueType := []
  deriving DecidableEq, Repr, Inhabited

/-- The bounds of a table or memory. -/
structure Limits where
  min : UInt64
  max : Option UInt64 := none
  deriving DecidableEq, Repr, Inhabited

/-- A table: the tag of the references it holds, and its bounds. -/
structure TableType where
  element : UInt8
  limits : Limits
  deriving DecidableEq, Repr, Inhabited

/-- A global: what it holds, and whether it may change. -/
structure GlobalType where
  value : ValueType
  isMutable : Bool
  deriving DecidableEq, Repr, Inhabited

/-- The four index spaces. -/
inductive IndexSpace where
  | function
  | table
  | memory
  | global
  deriving DecidableEq, Repr, Inhabited

/-- The word for an index space in messages and listings. -/
def IndexSpace.label : IndexSpace → String
  | .function => "function"
  | .table => "table"
  | .memory => "memory"
  | .global => "global"

/-- What an import asks for. A function is asked for by the index of its signature. -/
inductive ImportKind where
  | function (signature : UInt32)
  | table (type : TableType)
  | memory (limits : Limits)
  | global (type : GlobalType)
  deriving DecidableEq, Repr, Inhabited

/-- The index space that an import of this kind joins. -/
def ImportKind.space : ImportKind → IndexSpace
  | .function _ => .function
  | .table _ => .table
  | .memory _ => .memory
  | .global _ => .global

/-- The signature index of a function import. -/
def ImportKind.signature? : ImportKind → Option UInt32
  | .function signature => some signature
  | _ => none

/-- An import, named by the module it is taken from and its name there. -/
structure Import where
  moduleName : String
  name : String
  kind : ImportKind
  deriving DecidableEq, Repr, Inhabited

/-- An export: a name for an entry of an index space. -/
structure Export where
  name : String
  space : IndexSpace
  index : UInt32
  deriving DecidableEq, Repr, Inhabited

/-- The interface of a module. -/
structure Module where
  signatures : List Signature := []
  imports : List Import := []
  /-- The signature index of each function defined here. -/
  functions : List UInt32 := []
  tables : List TableType := []
  memories : List Limits := []
  /-- How many globals are defined here; their types are not kept. -/
  globalCount : UInt32 := 0
  exports : List Export := []
  deriving DecidableEq, Repr, Inhabited

end WasmBindings
