import WasmBindings.Binary.Cursor

/-!
# Variable-length integers, names and vectors

Unsigned integers are written in groups of seven bits, the least significant first; the top bit of
a byte says that another follows. An integer of `bits` bits has at most ⌈bits / 7⌉ bytes, and the
bits of the last one that lie beyond the width have to be zero. Padding with zero groups inside
that length is allowed, so a value has more than one reading but only one shortest form, which is
what the writer produces.

Names and vectors start with such an integer: the number of UTF-8 bytes, the number of items.
-/

namespace WasmBindings

namespace Leb128

/-- The groups of an integer that began at `start` and has `bits` bits still to come. -/
def groups (start : Nat) : (bits : Nat) → Reader Nat
  | bits + 8 => do
    let b ← Reader.byte
    if b < 128 then return b.toNat
    else
      let high ← groups start (bits + 1)
      return b.toNat % 128 + 128 * high
  | bits => do
    let b ← Reader.byte
    if b ≥ 128 then throw (.integerTooLong start)
    else if b.toNat >>> bits ≠ 0 then throw (.integerTooLarge start)
    else return b.toNat

/-- An unsigned integer of at most `bits` bits. -/
def read (bits : Nat) : Reader Nat := do
  let start ← Reader.offset
  groups start bits

/-- The shortest form of a number. -/
def encode (n : Nat) : Bytes :=
  if n < 128 then [UInt8.ofNat n] else UInt8.ofNat (n % 128 + 128) :: encode (n / 128)

end Leb128

namespace Reader

/-- An unsigned integer of at most 32 bits. -/
def u32 : Reader UInt32 := return UInt32.ofNat (← Leb128.read 32)

/-- An unsigned integer of at most 64 bits. -/
def u64 : Reader UInt64 := return UInt64.ofNat (← Leb128.read 64)

/-- A name: the number of its bytes, then its UTF-8. -/
def name : Reader String := do
  let size ← u32
  let start ← offset
  let raw ← bytes size.toNat
  match Utf8.decode? raw with
  | some text => return text
  | none => throw (.malformedUtf8 start)

/-- A vector: the number of its items, then the items. -/
def vector (item : Reader α) : Reader (List α) := do
  let count ← u32
  times item count.toNat

end Reader

end WasmBindings
