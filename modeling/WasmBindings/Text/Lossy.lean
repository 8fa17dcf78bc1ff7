import WasmBindings.Bytes

/-!
# Reading bytes that need not be UTF-8

What a program prints may be anything. It is read as UTF-8, and every longest beginning of a
character that does not go on as it should, and every byte that cannot begin one, is replaced by
U+FFFD.
-/

namespace WasmBindings.Lossy

/-- A character that has been begun: the bits so far, and the ranges of the bytes to come. -/
structure Pending where
  bits : Nat
  expected : List (UInt8 × UInt8)
  deriving DecidableEq, Repr

/-- The replacement for what is not UTF-8. -/
def replacement : Char := '\ufffd'

/-- Any continuation byte. -/
def continuation : UInt8 × UInt8 := (0x80, 0xbf)

/-- What a first byte begins. The range of the second byte keeps out longer forms than needed,
surrogates, and numbers above the last character. -/
def pending? (b : UInt8) : Option Pending :=
  if 0xc2 ≤ b ∧ b ≤ 0xdf then some ⟨b.toNat - 0xc0, [continuation]⟩
  else if b = 0xe0 then some ⟨0, [(0xa0, 0xbf), continuation]⟩
  else if b = 0xed then some ⟨0xd, [(0x80, 0x9f), continuation]⟩
  else if 0xe1 ≤ b ∧ b ≤ 0xef then some ⟨b.toNat - 0xe0, [continuation, continuation]⟩
  else if b = 0xf0 then some ⟨0, [(0x90, 0xbf), continuation, continuation]⟩
  else if b = 0xf4 then some ⟨4, [(0x80, 0x8f), continuation, continuation]⟩
  else if 0xf1 ≤ b ∧ b ≤ 0xf3 then
    some ⟨b.toNat - 0xf0, [continuation, continuation, continuation]⟩
  else none

/-- A byte where a character may begin: what is complete with it, and what is not. -/
def first (b : UInt8) : List Char × Option Pending :=
  if b < 0x80 then ([Char.ofNat b.toNat], none)
  else
    match pending? b with
    | some p => ([], some p)
    | none => ([replacement], none)

/-- One byte after what has been begun. -/
def step : Option Pending → UInt8 → List Char × Option Pending
  | none, b => first b
  | some ⟨bits, expected⟩, b =>
    match expected with
    | [] => first b
    | (low, high) :: more =>
      if low ≤ b ∧ b ≤ high then
        let bits := 64 * bits + b.toNat % 64
        if more.isEmpty then ([Char.ofNat bits], none) else ([], some ⟨bits, more⟩)
      else
        let (chars, next) := first b
        (replacement :: chars, next)

/-- The characters of some bytes, after what has been begun. -/
def chars : Option Pending → Bytes → List Char
  | none, [] => []
  | some _, [] => [replacement]
  | pending, b :: rest =>
    let (complete, next) := step pending b
    complete ++ chars next rest

/-- The text of some bytes. -/
def decode (bytes : Bytes) : String := String.ofList (chars none bytes)

end WasmBindings.Lossy
