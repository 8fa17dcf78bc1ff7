import WasmBindings.Binary.Decode
import WasmBindings.Module.Listing
import WasmBindings.Log

/-!
# The log of reading a module

Each section is announced before it is judged, and custom sections and imports are named as soon as
they have been read. The log ends where reading fails, so it is derived from the same steps as
`Module.decode`.
-/

namespace WasmBindings

/-- The items that can be read before one fails, `count` at most. -/
def Reader.readable (item : Reader α) : Nat → Cursor → List α
  | 0, _ => []
  | count + 1, c =>
    match item c with
    | .ok (first, rest) => first :: readable item count rest
    | .error _ => []

/-- The record that announces a section. -/
def Frame.heading (f : Frame) : LogRecord :=
  ⟨.debug, s!"section #{f.id} '{SectionKind.labelOf f.id}' " ++
    s!"at 0x{Hex.padded 8 f.offset}, len = {f.size}"⟩

/-- The record of a custom section whose name has been read. -/
def customRecord (name : String) : LogRecord :=
  ⟨.debug, s!"custom section '{name}'"⟩

/-- The record of an import that has been read. -/
def Import.record (i : Import) : LogRecord :=
  ⟨.debug, s!"import {i.moduleName}.{i.name} kind = {i.kind.text}"⟩

/-- What reading the payload of a section reports. -/
def Frame.details (f : Frame) : SectionKind → Log
  | .custom =>
    match Reader.name f.payload with
    | .ok (name, _) => [customRecord name]
    | .error _ => []
  | .imports =>
    match Reader.u32 f.payload with
    | .ok (count, rest) =>
      (Reader.readable Reader.importEntry count.toNat rest).map Import.record
    | .error _ => []
  | _ => []

/-- What taking in a section reports. -/
def Draft.stepLog (d : Draft) (f : Frame) : Log :=
  f.heading ::
    match d.accept f with
    | .ok kind => f.details kind
    | .error _ => []

/-- What reading the sections of a window reports. -/
def Draft.sectionsLog (d : Draft) (c : Cursor) : Log :=
  if c.isAtEnd then []
  else
    match _h : Reader.frame c with
    | .error _ => []
    | .ok (f, rest) =>
      d.stepLog f ++
        match d.step f with
        | .error _ => []
        | .ok d => sectionsLog d rest
termination_by c.remaining
decreasing_by
  have := Reader.Consumes.frame _ _ _ _h
  omega

/-- What reading a module reports. -/
def Module.decodeLog (binary : Bytes) : Log :=
  match Reader.header.run (.start binary) with
  | .ok ((), rest) => Draft.sectionsLog {} rest
  | .error _ => []

end WasmBindings
