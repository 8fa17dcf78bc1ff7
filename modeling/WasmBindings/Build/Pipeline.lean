import WasmBindings.Build.Artifacts
import WasmBindings.Build.Compiler

/-!
# Builds

A build compiles, applies the passes, makes the artifacts in memory and only then writes them. It
stops at the first failure, with one exception: the pass for size is skipped if its tool is not
there.

If a file cannot be written, those written before it are removed again.
-/

namespace WasmBindings

variable {m : Type → Type} [Monad m]

/-! ## Writing artifacts -/

/-- The files of some artifacts, in the order in which they are written. -/
def Artifacts.files (artifacts : Artifacts) (name : String) (out : Path) : List (Path × Bytes) :=
  match artifacts with
  | .binary contents => [(out.join ⟨name ++ ".wasm"⟩, contents)]
  | .bindings wrapper declarations =>
    (out.join ⟨name ++ ".js"⟩, Utf8.encode wrapper.source) ::
      declarations.toList.map fun text => (out.join ⟨name ++ ".d.ts"⟩, Utf8.encode text)

namespace Platform

/-- Removes a file written earlier, as far as possible. -/
def retract (p : Platform m) (path : Path) : m Unit := do
  match ← p.removeFile path with
  | .ok () => p.info s!"removed {path.text}"
  | .error error => p.warn s!"could not remove {path.text}: {error.message}"

/-- Writes files one after another; when one fails, those in `written` and those before it are
removed. -/
def writeFiles (p : Platform m) (written : List Path) :
    List (Path × Bytes) → ExceptT BuildError m (List Path)
  | [] => return written
  | (path, contents) :: rest => do
    match ← p.writeFile path contents with
    | .error error =>
      written.forM fun path => ExceptT.lift (p.retract path)
      throw (.io path error)
    | .ok () =>
      p.info s!"wrote {path.text}"
      writeFiles p (written ++ [path]) rest

/-- Writes artifacts under a name into a directory, which is made if need be. -/
def writeArtifacts (p : Platform m) (name : String) (artifacts : Artifacts) (out : Path) :
    ExceptT BuildError m (List Path) := do
  attempt (.io out) (p.createDirectories out)
  p.writeFiles [] (artifacts.files name out)

/-! ## The passes -/

/-- Applies the passes to a binary: removal of dead code always, optimisation for size in release
builds if its tool is there. -/
def postProcess (p : Platform m) (wasm : Bytes) (profile : Profile) (deadCode size : Pass m) :
    ExceptT ToolError m Bytes := do
  let trimmed ← deadCode.apply wasm
  p.info s!"{deadCode.name}: {wasm.length} -> {trimmed.length} bytes"
  match profile with
  | .debug => return trimmed
  | .release =>
    let small ← size.applyOptional p trimmed
    p.info s!"{size.name}: {trimmed.length} -> {small.length} bytes"
    return small

end Platform

/-! ## The whole build -/

/-- The programs that a build runs. -/
structure ToolNames where
  cargo : String := "cargo"
  rustc : String := "rustc"
  deadCode : String := "wasm-gc"
  size : String := "wasm-opt"
  deriving DecidableEq, Repr

/-- What to build: how, from which entry file if not from a package, and into what. -/
structure BuildPlan where
  profile : Profile := .debug
  entry : Option Path := none
  output : Output := {}
  tools : ToolNames := {}
  deriving DecidableEq, Repr

/-- Where a build reads and writes. -/
structure BuildPaths where
  input : Path
  cache : Path
  out : Path
  deriving DecidableEq, Repr

/-- The stages of a build that are done by tools. -/
structure Toolchain (m : Type → Type) where
  compiler : Compiler m
  deadCode : Pass m
  size : Pass m

namespace Platform

/-- The tools of a plan: `rustc` for an entry file, `cargo` for a package. -/
def toolchain (p : Platform m) (plan : BuildPlan) : Toolchain m where
  compiler :=
    match plan.entry with
    | some entry => Rustc.compiler p plan.tools.rustc entry
    | none => Cargo.compiler p plan.tools.cargo
  deadCode := p.deadCodePass plan.tools.deadCode
  size := p.sizePass plan.tools.size

/-- Makes the artifacts of a binary and reports on it. -/
def generate (p : Platform m) (binary : Bytes) (output : Output) :
    ExceptT BuildError m Artifacts := do
  (Artifacts.generateLog binary output).forM fun record => ExceptT.lift (p.record record)
  ExceptT.mk (pure (Artifacts.generate binary output))

/-- Carries out a plan and gives back the files it wrote. -/
def build (p : Platform m) (plan : BuildPlan) (tools : Toolchain m) (paths : BuildPaths) :
    ExceptT BuildError m (List Path) := do
  p.info s!"compiling {paths.input.text} ({plan.profile.label} profile)"
  attempt (.io paths.cache) (p.createDirectories paths.cache)
  let compiled ← tools.compiler.compile paths.input paths.cache plan.profile
  p.info s!"compiled {compiled.name} ({compiled.wasm.length} bytes)"
  let wasm ← attempt .tool
    (p.postProcess compiled.wasm plan.profile tools.deadCode tools.size)
  let artifacts ← p.generate wasm plan.output
  p.writeArtifacts compiled.name artifacts paths.out

end Platform

end WasmBindings
