import WasmBindings.Build.Path
import WasmBindings.Text.Lossy

/-!
# Texts of octets

Programs that do not care for encodings see a text as a row of bytes. Such a text has one character
for each byte, the one whose number the byte is; so nothing is lost, whatever the bytes are.
-/

namespace WasmBindings.Octet

/-- The character that stands for a byte. -/
def ofByte (b : UInt8) : Char := Char.ofNat b.toNat

/-- The byte that a character stands for. -/
def toByte (c : Char) : UInt8 := UInt8.ofNat c.toNat

/-- The text that stands for some bytes. -/
def ofBytes (bytes : Bytes) : String := String.ofList (bytes.map ofByte)

/-- The bytes that a text stands for. -/
def toBytes (text : String) : Bytes := text.toList.map toByte

/-- The text that stands for the bytes of another text. -/
def ofText (text : String) : String := ofBytes (Utf8.encode text)

/-- The text whose bytes a text stands for. -/
def toText (text : String) : String := Lossy.decode (toBytes text)

/-- The path that a text stands for. -/
def toPath (text : String) : Path := ⟨toText text⟩

/-- Whether some characters come before others, or are the same. -/
def precedes : List Char → List Char → Bool
  | [], _ => true
  | _ :: _, [] => false
  | a :: as, b :: bs => if a = b then precedes as bs else a.toNat < b.toNat

end WasmBindings.Octet
