import WasmBindings.Build.Path
import WasmBindings.Bindings.Surface

/-!
# What can go wrong in a build

The causes of failure of the whole program, from a file that cannot be read to a signature without
a host counterpart, and their wording.
-/

namespace WasmBindings

/-- Why an operation on files or programs failed. -/
inductive IoError where
  | notFound
  /-- The arguments of a program are too much to hand over. -/
  | argumentsTooLong
  /-- A file is not a program, whatever its mode says. -/
  | notAProgram
  | permissionDenied
  | alreadyExists
  | notADirectory
  | isADirectory
  | invalidArgument
  | nameTooLong
  | notEmpty
  | tooManyLinks
  /-- The name of a file holds a NUL. -/
  | nulInName
  /-- The name of a program, or something handed over to it, holds a NUL. -/
  | nulInCommand
  | notUtf8
  | other (text : String)
  deriving DecidableEq, Repr, Inhabited

namespace IoError

/-- What went wrong, in words. -/
def reason : IoError → String
  | notFound => "No such file or directory"
  | argumentsTooLong => "Argument list too long"
  | notAProgram => "Exec format error"
  | permissionDenied => "Permission denied"
  | alreadyExists => "File exists"
  | notADirectory => "Not a directory"
  | isADirectory => "Is a directory"
  | invalidArgument => "Invalid argument"
  | nameTooLong => "File name too long"
  | notEmpty => "Directory not empty"
  | tooManyLinks => "Too many levels of symbolic links"
  | nulInName => "file name contained an unexpected NUL byte"
  | nulInCommand => "nul byte found in provided data"
  | notUtf8 => "stream did not contain valid UTF-8"
  | other text => text

/-- The number under which the operating system knows a failure, if it is one of its own. -/
def number? : IoError → Option Nat
  | notFound => some 2
  | argumentsTooLong => some 7
  | notAProgram => some 8
  | permissionDenied => some 13
  | alreadyExists => some 17
  | notADirectory => some 20
  | isADirectory => some 21
  | invalidArgument => some 22
  | nameTooLong => some 36
  | notEmpty => some 39
  | tooManyLinks => some 40
  | nulInName | nulInCommand | notUtf8 | other _ => none

/-- The wording of a failure. -/
def message (error : IoError) : String :=
  match error.number? with
  | some number => s!"{error.reason} (os error {number})"
  | none => error.reason

end IoError

/-- Why an external tool did not do its work. -/
inductive ToolError where
  | unavailable (tool : String)
  | failed (tool status errorText : String)
  | missingOutput (tool : String) (path : Path)
  | io (tool : String) (error : IoError)
  deriving DecidableEq, Repr

/-- The wording of a failure. -/
def ToolError.message : ToolError → String
  | unavailable tool => s!"{tool} was not found on PATH"
  | failed tool status errorText => s!"{tool} failed ({status}): {errorText}"
  | missingOutput tool path => s!"{tool} did not produce {path.text}"
  | io tool error => s!"{tool}: {error.message}"

/-- Why a manifest does not name a package. -/
inductive ManifestError where
  /-- The document is not well-formed. -/
  | malformed
  /-- The document has no package with a name. -/
  | noPackageName
  deriving DecidableEq, Repr

/-- The wording of a failure. -/
def ManifestError.message : ManifestError → String
  | malformed => "the document is malformed"
  | noPackageName => "there is no package with a name"

/-- Why a build failed. -/
inductive BuildError where
  | format (error : FormatError)
  | mapping (error : MappingError)
  | tool (error : ToolError)
  | declarationsWithoutWrapper
  | manifest (path : Path) (error : ManifestError)
  | io (path : Path) (error : IoError)
  deriving DecidableEq, Repr

namespace BuildError

/-- The wording of a failure. -/
def message : BuildError → String
  | format error => s!"invalid module: {error.message}"
  | mapping error => s!"cannot generate declarations: {error.message}"
  | tool error => error.message
  | declarationsWithoutWrapper => "declarations can only be generated together with a wrapper"
  | manifest path error => s!"invalid manifest {path.text}: {error.message}"
  | io path error => s!"{path.text}: {error.message}"

/-- A module without a surface: an index that dangles makes the module invalid. -/
def ofSurface : SurfaceError → BuildError
  | .mapping error => mapping error
  | .unresolved error => format error

end BuildError

end WasmBindings
