import WasmBindings.Module.IndexSpace

/-!
# The text listing of a module

A heading with a count for each kind of entry, and under it one line an entry. Function lines carry
the number of the function in its index space; table and memory lines count from zero among the
local definitions, whatever is imported.
-/

namespace WasmBindings

/-- A value type in words; one without a word is shown by its tag. -/
def ValueType.text : ValueType → String
  | i32 => "i32"
  | i64 => "i64"
  | f32 => "f32"
  | f64 => "f64"
  | other tag => s!"<0x{Hex.ofByte tag}>"

/-- Value types with commas between them. -/
def ValueType.listText (types : List ValueType) : String :=
  ", ".intercalate (types.map text)

/-- The results of a signature: `nil` for none, and brackets around several. -/
def Signature.resultText (s : Signature) : String :=
  match s.results with
  | [] => "nil"
  | [result] => result.text
  | results => s!"({ValueType.listText results})"

/-- A signature as an arrow. -/
def Signature.text (s : Signature) : String :=
  s!"({ValueType.listText s.parameters}) -> {s.resultText}"

/-- The bounds of a table or memory. -/
def Limits.text (l : Limits) : String :=
  s!"initial={l.min}" ++
    match l.max with
    | some max => s!" max={max}"
    | none => ""

/-- A table. -/
def TableType.text (t : TableType) : String :=
  s!"type=0x{Hex.ofByte t.element} {t.limits.text}"

/-- A global. -/
def GlobalType.text (g : GlobalType) : String :=
  s!"{g.value.text} mutable=" ++ if g.isMutable then "true" else "false"

/-- What an import asks for. -/
def ImportKind.text : ImportKind → String
  | function signature => s!"func sig={signature}"
  | table type => s!"table {type.text}"
  | memory limits => s!"memory pages: {limits.text}"
  | global type => s!"global {type.text}"

/-- An import. -/
def Import.text (i : Import) : String :=
  s!"{i.kind.text} <- {i.moduleName}.{i.name}"

/-- The entry that an export names. -/
def Export.target (e : Export) : String :=
  s!"{e.space.label}[{e.index}]"

/-- An export. -/
def Export.text (e : Export) : String :=
  e.target ++ " -> \"" ++ e.name ++ "\""

namespace Module

/-- A line of the listing for each item, numbered from `first`. -/
def entryLines (line : Nat → α → String) (first : Nat) (items : List α) : List String :=
  (items.zipIdx first).map fun (item, index) => " - " ++ line index item

/-- The lines of the listing. -/
def listingLines (m : Module) : List String :=
  [s!"Type[{m.signatures.length}]:"] ++
  entryLines (fun i s => s!"type[{i}] {s.text}") 0 m.signatures ++
  [s!"Import[{m.imports.length}]:"] ++
  entryLines (fun i entry => s!"import[{i}] {entry.text}") 0 m.imports ++
  [s!"Function[{m.functions.length}]:"] ++
  entryLines (fun i signature => s!"func[{i}] sig={signature}")
    (m.importedCount .function) m.functions ++
  [s!"Table[{m.tables.length}]:"] ++
  entryLines (fun i t => s!"table[{i}] {t.text}") 0 m.tables ++
  [s!"Memory[{m.memories.length}]:"] ++
  entryLines (fun i l => s!"memory[{i}] pages: {l.text}") 0 m.memories ++
  [s!"Global[{m.globalCount}]"] ++
  [s!"Export[{m.exports.length}]:"] ++
  entryLines (fun _ e => e.text) 0 m.exports

/-- The listing; every line ends with a line break. -/
def listing (m : Module) : String :=
  String.join (m.listingLines.map (· ++ "\n"))

end Module

end WasmBindings
