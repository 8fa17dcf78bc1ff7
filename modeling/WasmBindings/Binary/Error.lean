import WasmBindings.Module.Basic

/-!
# What can be wrong with a binary

Every way in which reading a module can fail, as a cause with the facts that describe it. Offsets
count from the start of the whole binary.
-/

namespace WasmBindings

/-- The places where a one-byte tag chooses among alternatives. -/
inductive TagRole where
  | importKind
  | exportKind
  | mutability
  deriving DecidableEq, Repr

/-- The word for a place in messages. -/
def TagRole.label : TagRole → String
  | .importKind => "import"
  | .exportKind => "export"
  | .mutability => "global mutability"

/-- Who refers to a signature by its index. -/
inductive SignatureUser where
  | importing (moduleName name : String)
  | function (index : Nat)
  deriving DecidableEq, Repr

/-- The name of a referring entity in messages. -/
def SignatureUser.label : SignatureUser → String
  | .importing moduleName name => s!"import {moduleName}.{name}"
  | .function index => s!"function {index}"

/-- Why a binary is refused. -/
inductive FormatError where
  /-- A read at `offset` lacked this many bytes. -/
  | unexpectedEnd (offset needed : Nat)
  | badMagic (found : Bytes)
  | unknownVersion (version : UInt32)
  /-- The integer at `offset` goes on after the last byte it may have. -/
  | integerTooLong (offset : Nat)
  /-- The integer at `offset` does not fit its width. -/
  | integerTooLarge (offset : Nat)
  | malformedUtf8 (offset : Nat)
  | unknownSection (id : UInt8) (offset : Nat)
  | sectionOutOfOrder (id : UInt8) (offset : Nat)
  | sectionSizeMismatch (id : UInt8) (declared consumed : Nat)
  | badTypeForm (form : UInt8) (offset : Nat)
  | badKind (role : TagRole) (tag : UInt8) (offset : Nat)
  | badLimits (flags : UInt8) (offset : Nat)
  | unknownSignature (user : SignatureUser) (index : UInt32) (count : Nat)
  | unknownExportIndex (name : String) (space : IndexSpace) (index : UInt32) (count : Nat)
  | functionBodyMismatch (functions bodies : Nat)
  deriving DecidableEq, Repr

/-- The wording of an error. -/
def FormatError.message : FormatError → String
  | unexpectedEnd offset needed =>
    s!"unexpected end of input at offset {offset}: needed {needed} more byte(s)"
  | badMagic found => s!"magic header not detected: expected 0061736d, got {Hex.encode found}"
  | unknownVersion version => s!"unknown binary version: {version}"
  | integerTooLong offset => s!"integer representation too long at offset {offset}"
  | integerTooLarge offset => s!"integer too large at offset {offset}"
  | malformedUtf8 offset => s!"malformed UTF-8 encoding at offset {offset}"
  | unknownSection id offset => s!"malformed section id {id} at offset {offset}"
  | sectionOutOfOrder id offset =>
    s!"unexpected content after last section: section {id} at offset {offset} " ++
      "is duplicated or out of order"
  | sectionSizeMismatch id declared consumed =>
    s!"section size mismatch: section {id} declared {declared} byte(s), " ++
      s!"decoder consumed {consumed}"
  | badTypeForm form offset =>
    s!"malformed type form 0x{Hex.ofByte form} at offset {offset}: expected 0x60"
  | badKind role tag offset =>
    s!"malformed {role.label} kind 0x{Hex.ofByte tag} at offset {offset}"
  | badLimits flags offset => s!"malformed limits flags 0x{Hex.ofByte flags} at offset {offset}"
  | unknownSignature user index count =>
    s!"unknown type: {user.label} references type {index}, " ++
      s!"but only {count} type(s) are declared"
  | unknownExportIndex name space index count =>
    s!"unknown {space.label} {index} in export \"" ++ name ++
      s!"\": index space has {count} entr(ies)"
  | functionBodyMismatch functions bodies =>
    "function and code section have inconsistent lengths: " ++
      s!"{functions} function(s), {bodies} bod(ies)"

end WasmBindings
