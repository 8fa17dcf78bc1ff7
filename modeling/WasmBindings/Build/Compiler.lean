import WasmBindings.Build.Tool
import WasmBindings.Build.Manifest

/-!
# Compilers

Where a binary comes from: `cargo` builds the package of a directory, `rustc` a single file. Either
runs in the input directory and puts its output under the cache directory, from where it is read
back.
-/

namespace WasmBindings

variable {m : Type → Type} [Monad m]

/-- Whether a build is for use or for inspection. -/
inductive Profile where
  | debug
  | release
  deriving DecidableEq, Repr, Inhabited

/-- The name of a profile, which is also that of its output directory. -/
def Profile.label : Profile → String
  | debug => "debug"
  | release => "release"

/-- A binary, and the name that its artifacts get. -/
structure Compiled where
  name : String
  wasm : Bytes
  deriving DecidableEq, Repr, Inhabited

/-- A way to make a binary from the source in a directory. -/
structure Compiler (m : Type → Type) where
  compile : (input cache : Path) → Profile → ExceptT BuildError m Compiled

/-- The target that binaries are made for. -/
def wasmTarget : String := "wasm32-unknown-unknown"

/-- The file name of a binary. -/
def wasmFile (name : String) : Path := ⟨name ++ ".wasm"⟩

/-! ## A package -/

namespace Cargo

/-- The arguments of a build. -/
def arguments (profile : Profile) : List String :=
  ["build", "--target", wasmTarget] ++
    match profile with
    | .debug => []
    | .release => ["--release"]

/-- The name of the package in a directory. -/
def packageName (p : Platform m) (input : Path) : ExceptT BuildError m String := do
  let path := input.join ⟨"Cargo.toml"⟩
  let raw ← attempt (.io path) (p.readFile path)
  match Utf8.decode? raw with
  | none => throw (.io path .notUtf8)
  | some source => ExceptT.mk (pure ((Manifest.packageName source).mapError (.manifest path)))

/-- The name of a library target, which has no dashes. -/
def targetName (name : String) : String :=
  String.ofList (name.toList.map fun c => if c = '-' then '_' else c)

/-- Where the binary of a package is put. -/
def outputPath (cache : Path) (profile : Profile) (name : String) : Path :=
  ((cache.join ⟨wasmTarget⟩).join ⟨profile.label⟩).join (wasmFile (targetName name))

/-- Builds the package of the input directory. -/
def compiler (p : Platform m) (program : String) : Compiler m where
  compile input cache profile := do
    let name ← packageName p input
    attempt .tool <| p.runTool program
      { program
        arguments := arguments profile
        directory := some input
        settings := [("CARGO_TARGET_DIR", cache.text)] }
    let wasm ← attempt .tool (p.readOutput program (outputPath cache profile name))
    return ⟨name, wasm⟩

end Cargo

/-! ## A single file -/

namespace Rustc

/-- The arguments that compile an entry file to a library. -/
def arguments (entry : Path) (profile : Profile) (output : Path) : List String :=
  [entry.text, "--target", wasmTarget, "--crate-type", "cdylib"] ++
    (match profile with
    | .debug => ["-C", "debuginfo=2", "-C", "opt-level=1"]
    | .release => ["-C", "opt-level=3"]) ++
    ["-o", output.text]

/-- Where the binary of an entry file is put. -/
def outputPath (cache entry : Path) : Path := cache.join (wasmFile entry.artifactName)

/-- Compiles an entry file, which is named from the input directory. -/
def compiler (p : Platform m) (program : String) (entry : Path) : Compiler m where
  compile input cache profile := do
    let output := outputPath cache entry
    attempt .tool <| p.runTool program
      { program
        arguments := arguments entry profile output
        directory := some input }
    let wasm ← attempt .tool (p.readOutput program output)
    return ⟨entry.artifactName, wasm⟩

end Rustc

end WasmBindings
