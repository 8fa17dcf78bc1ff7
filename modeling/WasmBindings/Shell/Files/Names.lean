import WasmBindings.Shell.Program

/-!
# Names of files

The parts of paths, and how names are shown in messages.
-/

namespace WasmBindings.Shell.Files

/-- A text in quotes. -/
def quote (text : String) : String := "'" ++ text ++ "'"

/-- The last name of a path. -/
def baseName (path : String) : String :=
  match (Path.segments ⟨path⟩).getLast? with
  | some name => name
  | none => if path.isEmpty then "" else "/"

/-- A path without the slashes at its end. -/
def withoutSlashes (path : List Char) : List Char :=
  (path.reverse.dropWhile (· = '/')).reverse

/-- A path without its last name. -/
def directoryName (path : String) : String :=
  let front := ((withoutSlashes path.toList).reverse.dropWhile (· ≠ '/')).reverse
  match withoutSlashes front with
  | [] => if path.toList.head? = some '/' then "/" else "."
  | front => String.ofList front

/-- A name without an ending that is not all of it. -/
def withoutEnding (name ending : String) : String :=
  if name ≠ ending ∧ name.endsWith ending then
    String.ofList (name.toList.take (name.length - ending.length))
  else name

/-- A name inside a directory. -/
def inside (directory name : String) : String := (Path.join ⟨directory⟩ ⟨name⟩).text

end WasmBindings.Shell.Files
