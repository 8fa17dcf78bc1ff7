import WasmBindings.Binary.Section

/-!
# Writing

The bytes of integers, names, vectors and sections, as the readers of the same names take them.
-/

namespace WasmBindings.Writer

/-- A 32-bit integer. -/
def u32 (n : UInt32) : Bytes := Leb128.encode n.toNat

/-- A 64-bit integer. -/
def u64 (n : UInt64) : Bytes := Leb128.encode n.toNat

/-- A size or count, which is taken modulo 2^32. -/
def size (n : Nat) : Bytes := u32 (UInt32.ofNat n)

/-- A name: the number of its bytes, then its UTF-8. -/
def name (text : String) : Bytes :=
  let raw := Utf8.encode text
  size raw.length ++ raw

/-- A vector: the number of its items, then the items. -/
def vector (item : α → Bytes) (items : List α) : Bytes :=
  size items.length ++ items.flatMap item

/-- A section: its id, the size of the payload, the payload. -/
def sectionOf (id : UInt8) (payload : Bytes) : Bytes :=
  id :: size payload.length ++ payload

end WasmBindings.Writer
