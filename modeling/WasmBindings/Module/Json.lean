import WasmBindings.Module.Basic
import WasmBindings.Text.Json

/-!
# A module as a JSON document

Alternatives are an object with one member, named for the alternative, or a string where nothing
else is to be said.
-/

namespace WasmBindings

/-- A value type. -/
def ValueType.json : ValueType → Json
  | i32 => .string "I32"
  | i64 => .string "I64"
  | f32 => .string "F32"
  | f64 => .string "F64"
  | other tag => .object [("Unsupported", .number tag.toNat)]

/-- A signature. -/
def Signature.json (s : Signature) : Json :=
  .object [
    ("parameters", .array (s.parameters.map ValueType.json)),
    ("return_types", .array (s.results.map ValueType.json))]

/-- Bounds; a missing maximum is null. -/
def Limits.json (l : Limits) : Json :=
  .object [
    ("min", .number l.min.toNat),
    ("max", (l.max.map fun max => Json.number max.toNat).getD .null)]

/-- A table. -/
def TableType.json (t : TableType) : Json :=
  .object [("element_type", .number t.element.toNat), ("limits", t.limits.json)]

/-- A global. -/
def GlobalType.json (g : GlobalType) : Json :=
  .object [("value_type", g.value.json), ("mutable", .bool g.isMutable)]

/-- The name of an index space as an alternative. -/
def IndexSpace.alternative : IndexSpace → String
  | .function => "Function"
  | .table => "Table"
  | .memory => "Memory"
  | .global => "Global"

/-- What an import asks for. -/
def ImportKind.json (kind : ImportKind) : Json :=
  let content := match kind with
    | function signature => .number signature.toNat
    | table type => type.json
    | memory limits => limits.json
    | global type => type.json
  .object [(kind.space.alternative, content)]

/-- An import. -/
def Import.json (i : Import) : Json :=
  .object [
    ("module", .string i.moduleName),
    ("name", .string i.name),
    ("external_kind", i.kind.json)]

/-- An export. -/
def Export.json (e : Export) : Json :=
  .object [
    ("name", .string e.name),
    ("index", .object [(e.space.alternative, .number e.index.toNat)])]

/-- A module. -/
def Module.json (m : Module) : Json :=
  .object [
    ("types", .array (m.signatures.map Signature.json)),
    ("imports", .array (m.imports.map Import.json)),
    ("functions", .array (m.functions.map fun signature =>
      .object [("ftype_index", .number signature.toNat)])),
    ("tables", .array (m.tables.map TableType.json)),
    ("memories", .array (m.memories.map fun limits => .object [("limits", limits.json)])),
    ("global_count", .number m.globalCount.toNat),
    ("exports", .array (m.exports.map Export.json))]

end WasmBindings
