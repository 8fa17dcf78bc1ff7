import WasmBindings.Bindings.Declarations
import WasmBindings.Text.Base64

/-!
# The wrapper

An ECMAScript module that carries a binary as base64 and has one default export, a factory. A
synchronous wrapper compiles the binary when it is loaded; an asynchronous one compiles it on every
call.
-/

namespace WasmBindings

/-- A wrapper module and the name of its factory. -/
structure Wrapper where
  source : String
  entryPoint : String
  deriving DecidableEq, Repr, Inhabited

namespace Wrapper

/-- Decoding, with Node's `Buffer` where there is one and with `atob` elsewhere. -/
def decoder : String :=
  "const toBuffer = typeof Buffer === 'undefined'\n" ++
  "  ? (str) => Uint8Array.from(atob(str), (c) => c.charCodeAt(0))\n" ++
  "  : (str) => Buffer.from(str, 'base64');\n"

/-- The binary as a string literal. -/
def literal (binary : Bytes) : String :=
  "const wasm = \"" ++ String.ofList (Base64.encode binary) ++ "\";\n"

/-- The factory. -/
def factory : Mode → String
  | .sync =>
    "const mod = new WebAssembly.Module(toBuffer(wasm));\n" ++
    s!"function {WasmBindings.entryPoint}(imports) \x7b\n" ++
    "  return new WebAssembly.Instance(mod, imports).exports;\n\x7d\n"
  | .async =>
    s!"async function {WasmBindings.entryPoint}(imports) \x7b\n" ++
    "  const mod = await WebAssembly.compile(toBuffer(wasm));\n" ++
    "  return (await WebAssembly.instantiate(mod, imports)).exports;\n\x7d\n"

/-- The last line, which exports the factory. -/
def exported : String := s!"export default {WasmBindings.entryPoint};\n"

/-- The wrapper of any binary, whether or not it is a module. -/
def make (binary : Bytes) (mode : Mode) : Wrapper where
  source := decoder ++ literal binary ++ factory mode ++ exported
  entryPoint := WasmBindings.entryPoint

end Wrapper

end WasmBindings
