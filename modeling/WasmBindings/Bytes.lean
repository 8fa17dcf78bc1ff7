/-!
# Bytes

A binary is a list of bytes. Two texts belong to it: its hexadecimal spelling, which error
messages quote, and the text it holds when it is well-formed UTF-8.
-/

namespace WasmBindings

/-- A binary, first byte first. -/
abbrev Bytes := List UInt8

/-! ## Hexadecimal -/

namespace Hex

/-- The digit of a value below sixteen, in lower case. -/
def digit (n : Nat) : Char :=
  if n < 10 then Char.ofNat ('0'.toNat + n) else Char.ofNat ('a'.toNat + (n - 10))

/-- A byte as two digits. -/
def ofByte (b : UInt8) : String :=
  String.ofList [digit (b.toNat / 16), digit (b.toNat % 16)]

/-- A binary as two digits a byte. -/
def encode (bytes : Bytes) : String :=
  String.join (bytes.map ofByte)

/-- The digits of a number, most significant first; zero has none. -/
def digitsOf (n : Nat) : List Char :=
  if n = 0 then [] else digitsOf (n / 16) ++ [digit (n % 16)]

/-- A number in at least `width` digits, filled up with zeros. -/
def padded (width n : Nat) : String :=
  let digits := digitsOf n
  String.ofList (List.replicate (width - digits.length) '0' ++ digits)

/-- The value of a digit in either case. -/
def value? (c : Char) : Option Nat :=
  if '0' ≤ c ∧ c ≤ '9' then some (c.toNat - '0'.toNat)
  else if 'a' ≤ c ∧ c ≤ 'f' then some (c.toNat - 'a'.toNat + 10)
  else if 'A' ≤ c ∧ c ≤ 'F' then some (c.toNat - 'A'.toNat + 10)
  else none

/-- Reads two digits a byte; nothing else is accepted. -/
def decode? : List Char → Option Bytes
  | [] => some []
  | high :: low :: rest => do
    let h ← value? high
    let l ← value? low
    let bytes ← decode? rest
    return UInt8.ofNat (16 * h + l) :: bytes
  | [_] => none

/-- The digits that are written. -/
def IsDigit (c : Char) : Prop := ('0' ≤ c ∧ c ≤ '9') ∨ ('a' ≤ c ∧ c ≤ 'f')

instance : DecidablePred IsDigit := fun c =>
  inferInstanceAs (Decidable (('0' ≤ c ∧ c ≤ '9') ∨ ('a' ≤ c ∧ c ≤ 'f')))

/-- A digit has the value that it was made for. -/
theorem value?_digit {n : Nat} (h : n < 16) : value? (digit n) = some n := by
  have all : ∀ k : Fin 16, value? (digit k.val) = some k.val := by decide
  exact all ⟨n, h⟩

theorem isDigit_digit {n : Nat} (h : n < 16) : IsDigit (digit n) := by
  have all : ∀ k : Fin 16, IsDigit (digit k.val) := by decide
  exact all ⟨n, h⟩

theorem toList_encode_cons (b : UInt8) (bytes : Bytes) : (encode (b :: bytes)).toList =
    digit (b.toNat / 16) :: digit (b.toNat % 16) :: (encode bytes).toList := by
  rw [encode, List.map_cons, String.join_cons, String.toList_append, ofByte, String.toList_ofList]
  rfl

theorem length_encode (bytes : Bytes) : (encode bytes).toList.length = 2 * bytes.length := by
  induction bytes with
  | nil => rfl
  | cons b bytes ih =>
    rw [toList_encode_cons, List.length_cons, List.length_cons, ih, List.length_cons]
    omega

theorem isDigit_of_mem_encode {bytes : Bytes} {c : Char} (mem : c ∈ (encode bytes).toList) :
    IsDigit c := by
  induction bytes with
  | nil => cases mem
  | cons b bytes ih =>
    have small := b.toNat_lt
    rw [toList_encode_cons, List.mem_cons, List.mem_cons] at mem
    rcases mem with rfl | rfl | mem
    · exact isDigit_digit (by omega)
    · exact isDigit_digit (by omega)
    · exact ih mem

/-- What was written is read back. -/
theorem decode?_encode (bytes : Bytes) : decode? (encode bytes).toList = some bytes := by
  induction bytes with
  | nil => rfl
  | cons b bytes ih =>
    have small := b.toNat_lt
    have high := value?_digit (show b.toNat / 16 < 16 by omega)
    have low := value?_digit (show b.toNat % 16 < 16 by omega)
    rw [toList_encode_cons, decode?, high, low, ih]
    change some (UInt8.ofNat (16 * (b.toNat / 16) + b.toNat % 16) :: bytes) = _
    rw [Nat.div_add_mod, UInt8.ofNat_toNat]

end Hex

/-! ## UTF-8 -/

namespace Utf8

/-- The bytes of a text. -/
def encode (text : String) : Bytes := text.toByteArray.data.toList

/-- The text that the bytes spell, if they are well-formed. -/
def decode? (bytes : Bytes) : Option String := String.fromUTF8? ⟨bytes.toArray⟩

theorem decode?_encode (text : String) : decode? (encode text) = some text := by
  have valid : (⟨(encode text).toArray⟩ : ByteArray).IsValidUTF8 := by
    simpa [encode] using text.isValidUTF8
  simp [decode?, String.fromUTF8?, valid]
  rfl

theorem encode_of_decode? {bytes : Bytes} {text : String} (h : decode? bytes = some text) :
    encode text = bytes := by
  unfold decode? String.fromUTF8? at h
  split at h
  · cases h
    rfl
  · cases h

/-- Well-formed bytes are exactly the encoded texts. -/
theorem decode?_eq_some_iff {bytes : Bytes} {text : String} :
    decode? bytes = some text ↔ encode text = bytes :=
  ⟨encode_of_decode?, fun h => h ▸ decode?_encode text⟩

end Utf8

end WasmBindings
