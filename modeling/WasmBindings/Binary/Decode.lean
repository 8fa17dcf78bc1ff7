import WasmBindings.Binary.Entry
import WasmBindings.Module.Resolve

/-!
# Reading a module

A module is a header, magic and version, and then sections up to the end. Only the sections that
shape the interface are looked into; of globals and code only the leading count is read, of custom
sections only the name, and the rest of a binary is passed over by its declared sizes.

`Draft.step` takes in one section and `Draft.sections` all of them; `Module.decode` starts at the
header and ends with the check that indices resolve.
-/

namespace WasmBindings

/-- What a section says about the interface. -/
inductive Contents where
  | custom (name : String)
  | signatures (items : List Signature)
  | imports (items : List Import)
  | functions (items : List UInt32)
  | tables (items : List TableType)
  | memories (items : List Limits)
  | globals (count : UInt32)
  | exports (items : List Export)
  | code (bodies : UInt32)
  | skipped
  deriving DecidableEq, Repr

namespace Reader

/-- A leading count; the rest of the payload is passed over. -/
def countOnly : Reader UInt32 := do
  let count ← u32
  skipRest
  return count

/-- The payload of a section. -/
def contents : SectionKind → Reader Contents
  | .custom => do
    let name ← name
    skipRest
    return .custom name
  | .signatures => return .signatures (← signatures)
  | .imports => return .imports (← imports)
  | .functions => return .functions (← functions)
  | .tables => return .tables (← tables)
  | .memories => return .memories (← memories)
  | .globals => return .globals (← countOnly)
  | .exports => return .exports (← exports)
  | .code => return .code (← countOnly)
  | .start | .elements | .data | .dataCount => do
    skipRest
    return .skipped

/-- The header: the magic bytes, then version 1. -/
def header : Reader Unit := do
  let magic ← bytes 4
  if magic ≠ [0x00, 0x61, 0x73, 0x6d] then throw (.badMagic magic)
  else
    let version ← word
    if version ≠ 1 then throw (.unknownVersion version)
    else return ()

end Reader

/-- What has been gathered from the sections so far: the interface, the number of function bodies,
and the rank of the last section that had one. -/
structure Draft where
  interface : Module := {}
  bodies : Nat := 0
  lastRank : Nat := 0
  deriving DecidableEq, Repr

namespace Draft

/-- The kind of a section, which has to come after those already read. -/
def accept (d : Draft) (f : Frame) : Except FormatError SectionKind :=
  match SectionKind.ofId? f.id with
  | none => .error (.unknownSection f.id f.offset)
  | some kind => do
    require (∀ rank ∈ kind.rank?, d.lastRank < rank) (.sectionOutOfOrder f.id f.offset)
    return kind

/-- Takes in what a section of some kind says. -/
def add (d : Draft) (kind : SectionKind) (contents : Contents) : Draft :=
  let d := { d with lastRank := kind.rank?.getD d.lastRank }
  match contents with
  | .signatures items => { d with interface.signatures := items }
  | .imports items => { d with interface.imports := items }
  | .functions items => { d with interface.functions := items }
  | .tables items => { d with interface.tables := items }
  | .memories items => { d with interface.memories := items }
  | .globals count => { d with interface.globalCount := count }
  | .exports items => { d with interface.exports := items }
  | .code bodies => { d with bodies := bodies.toNat }
  | .custom _ | .skipped => d

end Draft

/-- Reads the payload of a section, which has to be used up. -/
def Frame.contents (f : Frame) (kind : SectionKind) : Except FormatError Contents := do
  let (contents, rest) ← (Reader.contents kind).run f.payload
  require (rest.remaining = 0)
    (.sectionSizeMismatch f.id f.size (f.size - rest.remaining))
  return contents

namespace Draft

/-- Takes in one section. -/
def step (d : Draft) (f : Frame) : Except FormatError Draft := do
  let kind ← d.accept f
  let contents ← f.contents kind
  return d.add kind contents

/-- Takes in all sections up to the end of the window. -/
def sections (d : Draft) (c : Cursor) : Except FormatError Draft :=
  if c.isAtEnd then .ok d
  else
    match _h : Reader.frame c with
    | .error e => .error e
    | .ok (f, rest) =>
      match d.step f with
      | .error e => .error e
      | .ok d => sections d rest
termination_by c.remaining
decreasing_by
  have := Reader.Consumes.frame _ _ _ _h
  omega

/-- The module that the sections describe, if its indices resolve. -/
def finish (d : Draft) : Except FormatError Module := do
  d.interface.resolve d.bodies
  return d.interface

end Draft

/-- Reads the interface of a module from its binary. -/
def Module.decode (binary : Bytes) : Except FormatError Module := do
  let ((), rest) ← Reader.header.run (.start binary)
  let draft ← Draft.sections {} rest
  draft.finish

end WasmBindings
