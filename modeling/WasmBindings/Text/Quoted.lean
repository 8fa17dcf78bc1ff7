import WasmBindings.Bytes

/-!
# Quoted strings

A string literal as JSON writes it: between quotes, with a backslash before quotes and backslashes,
a short escape for the five control characters that have one, and `\u00xx` for the other characters
below a blank. Everything else stands as it is, whether or not it is ASCII.
-/

namespace WasmBindings.Quoted

/-- One character inside a literal. -/
def escape (c : Char) : List Char :=
  if c = '"' then ['\\', '"']
  else if c = '\\' then ['\\', '\\']
  else if c = '\x08' then ['\\', 'b']
  else if c = '\x0c' then ['\\', 'f']
  else if c = '\n' then ['\\', 'n']
  else if c = '\r' then ['\\', 'r']
  else if c = '\t' then ['\\', 't']
  else if c.toNat < 0x20 then
    ['\\', 'u', '0', '0', Hex.digit (c.toNat / 16), Hex.digit (c.toNat % 16)]
  else [c]

/-- The literal for a sequence of characters. -/
def encodeChars (cs : List Char) : List Char :=
  '"' :: (cs.flatMap escape ++ ['"'])

/-- The literal for a text. -/
def encode (text : String) : String := String.ofList (encodeChars text.toList)

end WasmBindings.Quoted
