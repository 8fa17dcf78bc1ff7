import WasmBindings.Bindings.Surface
import WasmBindings.Text.Quoted
import WasmBindings.Log

/-!
# Declarations

The TypeScript declarations of a wrapper: the `Imports` that a caller supplies, the `Exports` it
gets, and the factory that turns the one into the other. Imports that are not the caller's concern
are listed in a comment in front.

Members stand one a line, in the order of the module. A name that is a plain identifier stands as
it is; any other is a string literal.
-/

namespace WasmBindings

/-- How the factory works: at once, or through a promise. -/
inductive Mode where
  | sync
  | async
  deriving DecidableEq, Repr, Inhabited

/-- The name of the factory; the default export of a wrapper is bound to it. -/
def entryPoint : String := "instantiate"

namespace Declarations

/-- The characters an identifier may start with. -/
def startsIdentifier (c : Char) : Bool := c.isAlpha || c == '_' || c == '$'

/-- The characters an identifier may go on with. -/
def continuesIdentifier (c : Char) : Bool := startsIdentifier c || c.isDigit

/-- Whether a name can stand as it is: an ASCII identifier. -/
def isIdentifier : List Char → Bool
  | [] => false
  | c :: rest => startsIdentifier c && rest.all continuesIdentifier

/-- A name in member position. -/
def memberName (name : String) : String :=
  if isIdentifier name.toList then name else Quoted.encode name

/-- The parameters of a method, named by their positions. -/
def parameterList (parameters : List HostType) : String :=
  ", ".intercalate (parameters.zipIdx.map fun (type, i) => s!"arg{i}: {type.text}")

/-- A member of an interface. -/
def memberText : Member → String
  | .method name signature =>
    s!"{memberName name}({parameterList signature.parameters}): {signature.result.text};"
  | .memory name => s!"{memberName name}: WebAssembly.Memory;"

/-- Lines with a line break after each. -/
def lines (items : List String) : String := String.join (items.map (· ++ "\n"))

/-- An omitted import in the comment. -/
def omittedText (i : Import) : String :=
  s!"{i.moduleName}.{i.name} ({i.kind.space.label})"

/-- The comment on the omitted imports; there is none if none is omitted. -/
def comment (omitted : List Import) : String :=
  if omitted.isEmpty then ""
  else
    "/**\n * Imports resolved by the host runtime rather than the caller:\n" ++
    lines (omitted.map fun i => s!" * - {omittedText i}") ++
    " */\n"

/-- What the caller supplies. -/
def importsText (supplied : List Member) : String :=
  if supplied.isEmpty then "export interface Imports \x7b\x7d\n"
  else
    "export interface Imports \x7b\n" ++
    s!"  {callerModule}: \x7b\n" ++
    lines (supplied.map fun member => "    " ++ memberText member) ++
    "  \x7d;\n\x7d\n"

/-- What the caller gets. -/
def exportsText (offered : List Member) : String :=
  if offered.isEmpty then "export interface Exports \x7b\x7d\n"
  else
    "export interface Exports \x7b\n" ++
    lines (offered.map fun member => "  " ++ memberText member) ++
    "\x7d\n"

/-- What the factory returns. -/
def returnedType : Mode → String
  | .sync => "Exports"
  | .async => "Promise<Exports>"

/-- The factory. -/
def factoryText (mode : Mode) : String :=
  s!"declare const {entryPoint}: (imports: Imports) => {returnedType mode};\n" ++
  s!"export default {entryPoint};\n"

/-- The declarations for a surface. -/
def render (surface : Surface) (mode : Mode) : String :=
  comment surface.omitted ++ importsText surface.supplied ++ "\n" ++
    exportsText surface.offered ++ "\n" ++ factoryText mode

end Declarations

/-- The declarations of a module. -/
def Module.declarations (m : Module) (mode : Mode) : Except SurfaceError String := do
  let surface ← m.surface
  return Declarations.render surface mode

/-- The record that says an import is left out. -/
def Import.omittedRecord (i : Import) : LogRecord :=
  ⟨.warn, s!"import {Declarations.omittedText i} is left out of the generated Imports interface"⟩

/-- What emitting the declarations of a module reports: the omitted imports, once nothing can fail
any more. -/
def Module.declarationsLog (m : Module) : Log :=
  match m.surface with
  | .ok surface => surface.omitted.map Import.omittedRecord
  | .error _ => []

end WasmBindings
