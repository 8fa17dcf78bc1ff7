import WasmBindings.CommandLine

/-!
# The program

The command line on a real machine. Programs cannot be started from here, so every tool counts as
one that is not there: `build` stops at its compiler, while `bindings` and `describe` do all of
their work.
-/

namespace WasmBindings.Machine

/-- The cause of a failed operation on files. -/
def ioError : IO.Error → IoError
  | .noFileOrDirectory .. => .notFound
  | .permissionDenied .. => .permissionDenied
  | .alreadyExists .. => .alreadyExists
  | .inappropriateType .. => .isADirectory
  | error => .other (toString error)

/-- The outcome of an operation on files. -/
def outcome (action : IO α) : IO (Except IoError α) := do
  match ← action.toBaseIO with
  | .ok a => return .ok a
  | .error error => return .error (ioError error)

/-- The machine that the program runs on. A detailed log shows everything. -/
def platform (verbose : Bool) : Platform IO where
  createDirectories p := outcome (IO.FS.createDirAll ⟨p.text⟩)
  readFile p := outcome do return (← IO.FS.readBinFile ⟨p.text⟩).data.toList
  writeFile p contents := outcome (IO.FS.writeBinFile ⟨p.text⟩ ⟨contents.toArray⟩)
  removeFile p := outcome (IO.FS.removeFile ⟨p.text⟩)
  locate _ := return none
  run _ := return .error .notFound
  makeScratch := return .error .permissionDenied
  removeScratch _ := return ()
  record r :=
    if verbose || r.level != .debug then IO.eprintln s!"{r.level.label} {r.text}" else return ()

end WasmBindings.Machine

/-- Runs the program. -/
def main (arguments : List String) : IO UInt32 := do
  let setting ← IO.getEnv "WASMWRAP_PROFILE"
  let verbose := match WasmBindings.CommandLine.read setting arguments with
    | .ok (verbose, _) => verbose
    | .error _ => false
  let platform := WasmBindings.Machine.platform verbose
  let outcome ← WasmBindings.CommandLine.run platform setting arguments
  IO.print outcome.output
  IO.eprint outcome.errors
  return UInt32.ofNat outcome.code
