import WasmBindings.Binary.Error

/-!
# Cursors and readers

A cursor is a place in a binary together with the bytes that may be read from there, its window. A
reader takes some bytes off the front of the window, or fails and takes none. Windows only ever
shrink from the front; `window` cuts a shorter one off for a part whose size is known.

Nothing a reader does depends on bytes outside its window, and offsets stay absolute: a window cut
off in the middle of a binary still reports where its bytes stand in the whole.
-/

namespace WasmBindings

/-- A place in a binary and what may be read from there. -/
structure Cursor where
  offset : Nat
  window : Bytes
  deriving DecidableEq, Repr

namespace Cursor

/-- The cursor over a whole binary. -/
def start (binary : Bytes) : Cursor := ⟨0, binary⟩

/-- How many bytes are left. -/
def remaining (c : Cursor) : Nat := c.window.length

/-- Whether everything has been read. -/
def isAtEnd (c : Cursor) : Bool := c.window.isEmpty

/-- The cursor `count` bytes further on. -/
def advance (c : Cursor) (count : Nat) : Cursor :=
  ⟨c.offset + count, c.window.drop count⟩

/-- The next `count` bytes as a window of their own. -/
def bounded (c : Cursor) (count : Nat) : Cursor :=
  ⟨c.offset, c.window.take count⟩

/-- The error of a read that needs `count` bytes and finds fewer. -/
def tooShort (c : Cursor) (count : Nat) : FormatError :=
  .unexpectedEnd c.offset (count - c.remaining)

end Cursor

/-- A reader: what it makes of the front of a window, and where it stops. -/
abbrev Reader := StateT Cursor (Except FormatError)

namespace Reader

/-- Where the reader stands. -/
def offset : Reader Nat := return (← get).offset

/-- The next byte. -/
def byte : Reader UInt8 := fun c =>
  match c.window with
  | [] => .error (c.tooShort 1)
  | b :: rest => .ok (b, ⟨c.offset + 1, rest⟩)

/-- The next `count` bytes. -/
def bytes (count : Nat) : Reader Bytes := fun c =>
  if count ≤ c.remaining then .ok (c.window.take count, c.advance count)
  else .error (c.tooShort count)

/-- Passes over the next `count` bytes. -/
def skip (count : Nat) : Reader Unit := do
  let _ ← bytes count

/-- Passes over all that is left. -/
def skipRest : Reader Unit := fun c => .ok ((), c.advance c.remaining)

/-- Cuts the next `count` bytes off as a window of their own and passes over them. -/
def window (count : Nat) : Reader Cursor := fun c =>
  if count ≤ c.remaining then .ok (c.bounded count, c.advance count)
  else .error (c.tooShort count)

/-- Whether nothing is left. -/
def isAtEnd : Reader Bool := return (← get).isAtEnd

/-- A 32-bit word, least significant byte first. -/
def word : Reader UInt32 := do
  let raw ← bytes 4
  return UInt32.ofNat (raw.foldr (fun b high => b.toNat + 256 * high) 0)

/-- Reads `item` a number of times. -/
def times (item : Reader α) : Nat → Reader (List α)
  | 0 => return []
  | count + 1 => do
    let first ← item
    let rest ← times item count
    return first :: rest

end Reader

end WasmBindings
