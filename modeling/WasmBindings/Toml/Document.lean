import WasmBindings.Toml.Scan
import WasmBindings.Toml.Value

/-!
# Reading a document

A document is a row of lines: headers, which open a table, and entries, which go into the table
opened last. Values nest to a bounded depth, and the bound is what the readers below recur on.
-/

namespace WasmBindings.Toml

namespace Scan

/-- A key in front of the last part, and the last part. -/
def splitKey : List String → List String × String
  | [] => ([], "")
  | [key] => ([], key)
  | part :: rest =>
    let (path, key) := splitKey rest
    (part :: path, key)

/-- The items of an array, after the opening bracket. -/
def arrayItems (item : Scan Value) : Scan (List Value) := do
  gap
  let items ←
    if ← looksAt [']'] then pure []
    else do
      let first ← item
      gap
      let rest ← many do
        char ','
        gap
        let next ← item
        gap
        return next
      let _ ← optional (char ',')
      gap
      pure (first :: rest)
  char ']'
  return items

/-- The entries of an inline table, after the opening brace. They stand on one line, without a comma
after the last. -/
def inlineEntries (item : Scan Value) : Scan Entries := do
  let entry : Scan (List String × Value) := do
    let name ← key
    char '='
    blanks
    let value ← item
    blanks
    return (name, value)
  blanks
  let pairs ←
    if ← looksAt ['\x7d'] then pure []
    else do
      let first ← entry
      let rest ← many (char ',' *> entry)
      pure (first :: rest)
  char '\x7d'
  pairs.foldlM (fun entries (name, value) =>
    let (path, key) := splitKey name
    entries.addDotted .inline path key value) []

/-- A value without items. -/
def simpleValue : Scan Value := do
  match ← peek? with
  | some '"' | some '\'' => return .string (← string)
  | some 't' => token ['t', 'r', 'u', 'e'] *> pure (.boolean true)
  | some 'f' => token ['f', 'a', 'l', 's', 'e'] *> pure (.boolean false)
  | _ =>
    (dateTime *> pure .dateTime) <|> (float *> pure .float) <|> (.integer <$> integer)

/-- A value that nests less than `depth` levels deeper. -/
def value : (depth : Nat) → Scan Value
  | 0 => do
    check ((← peek?) ≠ some '[' ∧ (← peek?) ≠ some '\x7b')
    simpleValue
  | depth + 1 => do
    match ← peek? with
    | some '[' =>
      char '['
      return .array (← arrayItems (value depth))
    | some '\x7b' =>
      char '\x7b'
      return .table .inline (← inlineEntries (value depth))
    | _ => simpleValue

/-! ## Lines -/

/-- A line of a document. -/
inductive Line where
  | blank
  | header (name : List String)
  | tablesHeader (name : List String)
  | entry (name : List String) (value : Value)

/-- A line, up to and including its end. -/
def line : Scan Line := do
  blanks
  match ← peek? with
  | none => failure
  | some '#' | some '\n' | some '\r' =>
    lineEnd
    return .blank
  | some '[' =>
    if ← looksAt ['[', '['] then
      token ['[', '[']
      let name ← key
      token [']', ']']
      lineEnd
      return .tablesHeader name
    else
      char '['
      let name ← key
      char ']'
      lineEnd
      return .header name
  | some _ =>
    let name ← key
    char '='
    blanks
    let value ← value (depthLimit - 1)
    lineEnd
    return .entry name value

end Scan

/-- A document being read: its entries, and the table that entries go into. -/
structure Draft where
  entries : Entries := []
  current : List String := []

/-- Takes in a line. -/
def Draft.take (d : Draft) : Scan.Line → Option Draft
  | .blank => some d
  | .header name => do
    let (path, key) := Scan.splitKey name
    return ⟨← d.entries.openTable path key, name⟩
  | .tablesHeader name => do
    let (path, key) := Scan.splitKey name
    return ⟨← d.entries.addTable path key, name⟩
  | .entry name value => do
    let (path, key) := Scan.splitKey name
    let entries ← d.entries.alongHeader
      (fun origin entries => entries.addDotted origin path key value) d.current
    return { d with entries }

/-- The entries of a document, unless it is malformed. A byte order mark in front is passed over. -/
def read? (text : String) : Option Entries := do
  let chars := match text.toList with
    | '\ufeff' :: rest => rest
    | chars => chars
  let (lines, rest) ← (Scan.many Scan.line).run chars
  guard (rest.all Scan.isBlank)
  let d ← lines.foldlM Draft.take {}
  return d.entries

end WasmBindings.Toml
