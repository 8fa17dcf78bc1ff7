import WasmBindings.Toml.Document
import WasmBindings.Build.Error

/-!
# The manifest

Of a package's manifest only the name of the package is read. The package is a table with an entry
`name`, or an array whose first item is the name.
-/

namespace WasmBindings.Manifest

/-- The name that a package value gives. -/
def nameOf? : Toml.Value → Option String
  | .table _ entries =>
    match Toml.Entries.get? entries "name" with
    | some (.string name) => some name
    | _ => none
  | .array (.string name :: _) => some name
  | _ => none

/-- The name of the package that a manifest describes. -/
def packageName (source : String) : Except ManifestError String :=
  match Toml.read? source with
  | none => .error .malformed
  | some entries =>
    match (Toml.Entries.get? entries "package").bind nameOf? with
    | some name => .ok name
    | none => .error .noPackageName

end WasmBindings.Manifest
