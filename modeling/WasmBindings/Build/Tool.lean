import WasmBindings.Build.Platform
import WasmBindings.Text.Blank
import WasmBindings.Text.Lossy

/-!
# Tools and passes

A pass turns a binary into another one by an external tool. Binaries are handed over in files of a
scratch directory, which is gone afterwards. A tool that cannot be found is told apart from one that
ran and failed, so that a pass can be optional.
-/

namespace WasmBindings

variable {m : Type → Type} [Monad m]

/-- A transformation of a binary, and its name. -/
structure Pass (m : Type → Type) where
  name : String
  apply : Bytes → ExceptT ToolError m Bytes

/-- Applies a pass, or leaves the binary as it is if the tool is not there. Any other failure stays
one. -/
def Pass.applyOptional (p : Platform m) (pass : Pass m) (wasm : Bytes) :
    ExceptT ToolError m Bytes :=
  ExceptT.mk do
    match ← (pass.apply wasm).run with
    | .error (.unavailable tool) =>
      p.warn s!"{tool} not found, skipping {pass.name} pass"
      return .ok wasm
    | outcome => return outcome

namespace Platform

/-- A program that cannot be started because something is missing counts as not there. -/
def startError (tool : String) : IoError → ToolError
  | .notFound => .unavailable tool
  | error => .io tool error

/-- An output file that is not there means that the tool did not make it. -/
def outputError (tool : String) (path : Path) : IoError → ToolError
  | .notFound => .missingOutput tool path
  | error => .io tool error

/-- A program that ended without success has failed, with what it printed as errors. -/
def judge (tool : String) (completion : Completion) : Except ToolError Unit :=
  if completion.status.isSuccess then .ok ()
  else
    .error (.failed tool completion.status.text
      (trimBlanks (Lossy.decode completion.errorOutput)))

/-- Runs a tool, which has to end with success. -/
def runTool (p : Platform m) (tool : String) (command : Command) : ExceptT ToolError m Unit := do
  let completion ← attempt (startError tool) (p.run command)
  ExceptT.mk (pure (judge tool completion))

/-- Reads what a tool has made. -/
def readOutput (p : Platform m) (tool : String) (path : Path) : ExceptT ToolError m Bytes :=
  attempt (outputError tool path) (p.readFile path)

/-- Hands a binary to a tool in a scratch directory and takes back what it makes of it. -/
def exchange (p : Platform m) (tool : String) (executable scratch : Path)
    (arguments : (input output : Path) → List String) (wasm : Bytes) :
    ExceptT ToolError m Bytes := do
  let input := scratch.join ⟨"input.wasm"⟩
  let output := scratch.join ⟨"output.wasm"⟩
  attempt (.io tool) (p.writeFile input wasm)
  p.runTool tool
    { program := executable.text, arguments := arguments input output }
  p.readOutput tool output

/-- Applies a tool that reads one file and writes another. -/
def applyFileTool (p : Platform m) (tool : String)
    (arguments : (input output : Path) → List String) (wasm : Bytes) :
    ExceptT ToolError m Bytes := do
  match ← p.locate tool with
  | none => throw (.unavailable tool)
  | some executable =>
    let scratch ← attempt (.io tool) p.makeScratch
    ExceptT.mk do
      let outcome ← (p.exchange tool executable scratch arguments wasm).run
      p.removeScratch scratch
      return outcome

/-- Removal of dead code. -/
def deadCodePass (p : Platform m) (program : String) : Pass m where
  name := "wasm-gc"
  apply := p.applyFileTool program fun input output => [input.text, output.text]

/-- Optimisation for size. -/
def sizePass (p : Platform m) (program : String) : Pass m where
  name := "wasm-opt"
  apply := p.applyFileTool program fun input output => ["-Os", input.text, "-o", output.text]

end Platform

end WasmBindings
