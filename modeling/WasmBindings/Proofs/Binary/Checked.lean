import WasmBindings.Binary.Decode

/-!
# Reading by positions

A machine has no windows. It has a buffer and two positions in it, finds out how many bytes are left
by a subtraction, indexes and slices the buffer, and puts integers together by shifts. Each of these
operations has a domain, and outside of it the machine stops for good (`Halt.panic`).

Here the readers of a module are written in these terms. Every subtraction, index, slice and shift
is checked where it is done, and so is every cursor that is made: its positions have to be in order
and inside the buffer. A sum of positions needs no check of its own, for it is the position of a
cursor or the end of a slice.
-/

namespace WasmBindings

/-- Why a computation stops early. -/
inductive Halt where
  /-- An operation was used outside of its domain. -/
  | panic
  /-- An error is reported. -/
  | fault (error : FormatError)
  deriving DecidableEq, Repr

namespace Checked

/-! ## Operations with a domain -/

/-- A difference; it must not fall below zero. -/
def difference (a b : Nat) : Except Halt Nat :=
  if b ≤ a then .ok (a - b) else .error .panic

/-- The byte at a position, which must lie in the buffer. -/
def byteAt (buffer : Bytes) (pos : Nat) : Except Halt UInt8 :=
  match buffer[pos]? with
  | some b => .ok b
  | none => .error .panic

/-- The bytes between two positions, which must be in order and in the buffer. -/
def slice (buffer : Bytes) (start stop : Nat) : Except Halt Bytes :=
  if start ≤ stop ∧ stop ≤ buffer.length then .ok ((buffer.take stop).drop start)
  else .error .panic

/-- A 64-bit word shifted up; the amount must be less than its width. -/
def shiftLeft (n : UInt64) (amount : Nat) : Except Halt UInt64 :=
  if amount < 64 then .ok (n <<< UInt64.ofNat amount) else .error .panic

/-- A 64-bit word shifted down; the amount must be less than its width. -/
def shiftRight (n : UInt64) (amount : Nat) : Except Halt UInt64 :=
  if amount < 64 then .ok (n >>> UInt64.ofNat amount) else .error .panic

/-! ## Cursors -/

/-- What may be read of a buffer: the bytes from `pos` up to `stop`. -/
structure Cursor where
  buffer : Bytes
  pos : Nat
  stop : Nat
  deriving DecidableEq, Repr

namespace Cursor

/-- The positions are in order, and none lies beyond the buffer. -/
def InBounds (c : Cursor) : Prop := c.pos ≤ c.stop ∧ c.stop ≤ c.buffer.length

instance : DecidablePred InBounds := fun c =>
  inferInstanceAs (Decidable (c.pos ≤ c.stop ∧ c.stop ≤ c.buffer.length))

/-- The cursor over a whole buffer. -/
def whole (buffer : Bytes) : Cursor := ⟨buffer, 0, buffer.length⟩

/-- A cursor with these positions; it must be in bounds. -/
def make (buffer : Bytes) (pos stop : Nat) : Except Halt Cursor :=
  if InBounds ⟨buffer, pos, stop⟩ then .ok ⟨buffer, pos, stop⟩ else .error .panic

/-- How many bytes are left. -/
def remaining (c : Cursor) : Except Halt Nat := difference c.stop c.pos

/-- Whether everything has been read. -/
def isAtEnd (c : Cursor) : Bool := c.pos = c.stop

/-- The cursor `count` bytes further on. -/
def advance (c : Cursor) (count : Nat) : Except Halt Cursor :=
  make c.buffer (c.pos + count) c.stop

/-- The failure of a read that needs `count` bytes and finds fewer. -/
def tooShort (c : Cursor) (count : Nat) : Except Halt α := do
  let left ← c.remaining
  let needed ← difference count left
  .error (.fault (.unexpectedEnd c.pos needed))

end Cursor

/-! ## Readers -/

/-- A reader that works by positions. -/
abbrev Reader := StateT Cursor (Except Halt)

/-- A computation that reads nothing. -/
def lift (x : Except Halt α) : Reader α := fun c => do
  let a ← x
  .ok (a, c)

/-- Reports an error. -/
def fault (e : FormatError) : Reader α := fun _ => .error (.fault e)

/-- Where the reader stands. -/
def offset : Reader Nat := fun c => .ok (c.pos, c)

/-- How many bytes are left. -/
def remaining : Reader Nat := fun c => do
  let left ← c.remaining
  .ok (left, c)

/-- The next byte. -/
def byte : Reader UInt8 := fun c =>
  if c.isAtEnd then c.tooShort 1
  else do
    let b ← byteAt c.buffer c.pos
    let next ← c.advance 1
    .ok (b, next)

/-- Something made of the next `count` bytes. -/
def sized (count : Nat) (part : Cursor → Except Halt α) : Reader α := fun c => do
  let left ← c.remaining
  if left < count then c.tooShort count
  else
    let a ← part c
    let next ← c.advance count
    .ok (a, next)

/-- The next `count` bytes. -/
def bytes (count : Nat) : Reader Bytes :=
  sized count fun c => slice c.buffer c.pos (c.pos + count)

/-- Passes over the next `count` bytes. -/
def skip (count : Nat) : Reader Unit := do
  let _ ← bytes count

/-- Passes over all that is left. -/
def skipRest : Reader Unit := do
  let left ← remaining
  skip left

/-- Splits off the next `count` bytes as a cursor of their own. -/
def split (count : Nat) : Reader Cursor :=
  sized count fun c => Cursor.make c.buffer c.pos (c.pos + count)

/-- A 32-bit word, least significant byte first, from the first four bytes of what was read. -/
def word : Reader UInt32 := do
  let raw ← bytes 4
  let raw ← lift (slice raw 0 4)
  return UInt32.ofNat (raw.foldr (fun b high => b.toNat + 256 * high) 0)

/-- Reads `item` a number of times. -/
def times (item : Reader α) : Nat → Reader (List α)
  | 0 => return []
  | count + 1 => do
    let first ← item
    let rest ← times item count
    return first :: rest

/-! ## Integers, names and vectors -/

/-- If no groups may follow, a byte must end the integer, and its bits beyond the width must be
zero. -/
def checkGroup (start bits left shift : Nat) (b : UInt8) : Reader Unit :=
  if left ≠ 0 then return ()
  else if b &&& 0x80 ≠ 0 then fault (.integerTooLong start)
  else do
    let allowed ← lift (difference bits shift)
    if allowed < 7 then
      let unused ← lift (shiftRight (b &&& 0x7f).toUInt64 allowed)
      if unused ≠ 0 then fault (.integerTooLarge start) else return ()
    else return ()

/-- At most `left` groups of an integer of `bits` bits that began at `start`, when `shift` bits have
been read and amount to `low`. -/
def groups (start bits : Nat) : (left shift : Nat) → (low : UInt64) → Reader UInt64
  | 0, _, _ => fault (.integerTooLong start)
  | left + 1, shift, low => do
    let b ← byte
    checkGroup start bits left shift b
    let high ← lift (shiftLeft (b &&& 0x7f).toUInt64 shift)
    if b &&& 0x80 = 0 then return low ||| high
    else groups start bits left (shift + 7) (low ||| high)

/-- An unsigned integer of at most `bits` bits. -/
def integer (bits : Nat) : Reader UInt64 := do
  let start ← offset
  groups start bits ((bits + 6) / 7) 0 0

/-- An unsigned integer of at most 32 bits. -/
def u32 : Reader UInt32 := return (← integer 32).toUInt32

/-- An unsigned integer of at most 64 bits. -/
def u64 : Reader UInt64 := integer 64

/-- The text of some bytes that start at an offset. -/
def text (start : Nat) (raw : Bytes) : Reader String :=
  match Utf8.decode? raw with
  | some text => return text
  | none => fault (.malformedUtf8 start)

/-- A name. -/
def name : Reader String := do
  let size ← u32
  let start ← offset
  let raw ← bytes size.toNat
  text start raw

/-- A vector. Room is made for no more items than there are bytes left. -/
def vector (item : Reader α) : Reader (List α) := do
  let count ← u32
  let _ ← remaining
  times item count.toNat

/-! ## Entries -/

/-- A value type. -/
def valueType : Reader ValueType := return .ofTag (← byte)

/-- A signature. -/
def signature : Reader Signature := do
  let start ← offset
  let form ← byte
  if form ≠ 0x60 then fault (.badTypeForm form start)
  else
    let parameters ← vector valueType
    let results ← vector valueType
    return ⟨parameters, results⟩

/-- A bound of a table or memory. -/
def bound (wide : Bool) : Reader UInt64 :=
  if wide then u64 else return (← u32).toUInt64

/-- Bounds. -/
def limits : Reader Limits := do
  let start ← offset
  let flags ← byte
  if flags > 7 then fault (.badLimits flags start)
  else
    let wide := flags &&& 4 != 0
    let min ← bound wide
    if flags &&& 1 = 0 then return ⟨min, none⟩
    else
      let max ← bound wide
      return ⟨min, some max⟩

/-- A table. -/
def table : Reader TableType := do
  let element ← byte
  let limits ← limits
  return ⟨element, limits⟩

/-- A global's type. -/
def globalType : Reader GlobalType := do
  let value ← valueType
  let start ← offset
  let tag ← byte
  if tag = 0 then return ⟨value, false⟩
  else if tag = 1 then return ⟨value, true⟩
  else fault (.badKind .mutability tag start)

/-- What an import asks for. -/
def importKind : Reader ImportKind := do
  let start ← offset
  let tag ← byte
  if tag = 0 then return .function (← u32)
  else if tag = 1 then return .table (← table)
  else if tag = 2 then return .memory (← limits)
  else if tag = 3 then return .global (← globalType)
  else fault (.badKind .importKind tag start)

/-- An import. -/
def importEntry : Reader Import := do
  let moduleName ← name
  let name ← name
  let kind ← importKind
  return ⟨moduleName, name, kind⟩

/-- The export that has been read, if its tag selects an index space. -/
def exportOf (name : String) (start : Nat) (tag : UInt8) (index : UInt32) : Reader Export :=
  match Reader.exportSpace? tag with
  | some space => return ⟨name, space, index⟩
  | none => fault (.badKind .exportKind tag start)

/-- An export. -/
def exportEntry : Reader Export := do
  let name ← name
  let start ← offset
  let tag ← byte
  let index ← u32
  exportOf name start tag index

/-! ## Sections -/

/-- A leading count; the rest of the payload is passed over. -/
def countOnly : Reader UInt32 := do
  let count ← u32
  skipRest
  return count

/-- The payload of a section. -/
def contents : SectionKind → Reader Contents
  | .custom => do
    let name ← name
    skipRest
    return .custom name
  | .signatures => return .signatures (← vector signature)
  | .imports => return .imports (← vector importEntry)
  | .functions => return .functions (← vector u32)
  | .tables => return .tables (← vector table)
  | .memories => return .memories (← vector limits)
  | .globals => return .globals (← countOnly)
  | .exports => return .exports (← vector exportEntry)
  | .code => return .code (← countOnly)
  | .start | .elements | .data | .dataCount => do
    skipRest
    return .skipped

/-- A section: where it starts, its id, the size that was announced, and its payload. -/
structure Frame where
  offset : Nat
  id : UInt8
  size : Nat
  payload : Cursor
  deriving DecidableEq, Repr

/-- Cuts out the next section. -/
def frame : Reader Frame := do
  let start ← offset
  let id ← byte
  let size ← u32
  let payload ← split size.toNat
  return ⟨start, id, size.toNat, payload⟩

/-- Reads the payload of a section, which has to be used up. -/
def Frame.contents (f : Frame) (kind : SectionKind) : Except Halt Contents := do
  let (said, rest) ← Checked.contents kind f.payload
  if rest.isAtEnd then return said
  else
    let left ← rest.remaining
    let consumed ← difference f.size left
    .error (.fault (.sectionSizeMismatch f.id f.size consumed))

/-- The header: the magic bytes, then version 1. -/
def header : Reader Unit := do
  let magic ← bytes 4
  if magic ≠ [0x00, 0x61, 0x73, 0x6d] then fault (.badMagic magic)
  else
    let version ← word
    if version ≠ 1 then fault (.unknownVersion version)
    else return ()

end Checked

end WasmBindings
