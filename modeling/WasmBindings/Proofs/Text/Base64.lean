import Mathlib.Algebra.Group.Nat.Defs
import Mathlib.Data.Option.Basic
import WasmBindings.Text.Base64

/-!
# Base64 by bits

What base64 is can be said without groups of three and four: the bits of the bytes, most
significant first, with fewer than six zeros behind them, are the bits of digits of six bits each,
and the digits are spelled in an alphabet and filled up with `=` to a multiple of four
(`Base64.Standard`). The encoder works on groups, and each of its groups does that
(`Base64.standard_encode`).

The decoder undoes it (`Base64.decode?_encode`). Only in the last group can it take a digit for
filling, and no digit is spelled `=`.
-/

namespace WasmBindings.Base64

/-- The spellings of the digits, in the order of their values. -/
def alphabet : List Char :=
  "ABCDEFGHIJKLMNOPQRSTUVWXYZabcdefghijklmnopqrstuvwxyz0123456789+/".toList

/-- The spelling of a digit. -/
def letter (d : Fin 64) : Char := alphabet.getD d.val '='

/-- The lowest bits of a number, the most significant first. -/
def bits : (width n : Nat) → List Bool
  | 0, _ => []
  | width + 1, n => bits width (n / 2) ++ [n % 2 == 1]

/-- The standard form of some bytes, with padding: the digits carry the bits of the bytes and as few
zeros as make them whole, and behind them is as little filling as makes up fours. -/
inductive Standard (bytes : Bytes) : List Char → Prop
  | spelled {digits : List (Fin 64)} {zeros filling : Nat}
      (carried : digits.flatMap (bits 6 ·.val) =
        bytes.flatMap (bits 8 ·.toNat) ++ List.replicate zeros false)
      (few : zeros < 6) (fours : 4 ∣ digits.length + filling) (least : filling < 4) :
      Standard bytes (digits.map letter ++ List.replicate filling '=')

/-! ## Bits -/

/-- The high bits of a number come first. -/
theorem bits_add (width low n : Nat) :
    bits (width + low) n = bits width (n / 2 ^ low) ++ bits low n := by
  induction low generalizing n with
  | zero => rw [Nat.add_zero, Nat.pow_zero, Nat.div_one, bits, List.append_nil]
  | succ low ih =>
    rw [← Nat.add_assoc, bits, bits, ih, Nat.div_div_eq_div_mul, ← Nat.pow_succ', List.append_assoc]

/-- Bits above the width are no matter. -/
theorem bits_mod (width n : Nat) : bits width (n % 2 ^ width) = bits width n := by
  induction width generalizing n with
  | zero => rfl
  | succ width ih =>
    have lowest : n % 2 ^ (width + 1) % 2 = n % 2 :=
      Nat.mod_mod_of_dvd n ⟨2 ^ width, Nat.pow_succ'⟩
    have higher : n % 2 ^ (width + 1) / 2 = n / 2 % 2 ^ width := by
      rw [Nat.pow_succ', Nat.mod_mul_right_div_self]
    rw [bits, bits, lowest, higher, ih]

/-- A number below others has bits of its own behind theirs. -/
theorem bits_mul_add (width : Nat) {low high n : Nat} (small : n < 2 ^ low) :
    bits (width + low) (high * 2 ^ low + n) = bits width high ++ bits low n := by
  rw [bits_add, ← bits_mod low (high * 2 ^ low + n), Nat.mul_comm, Nat.mul_add_mod,
    Nat.mod_eq_of_lt small, Nat.mul_add_div (Nat.two_pow_pos low), Nat.div_eq_of_lt small,
    Nat.add_zero]

/-- A digit that is cut off at six bits. -/
theorem bits_digit (n : Nat) : bits 6 (n % 64) = bits 6 n := bits_mod 6 n

/-- The digits of a number carry its bits; all but the first are cut off at six bits. -/
theorem bits_two (n : Nat) : bits 6 (n / 64) ++ bits 6 (n % 64) = bits 12 n := by
  rw [bits_digit]
  exact (bits_add 6 6 n).symm

theorem bits_three (n : Nat) :
    bits 6 (n / 4096) ++ (bits 6 (n / 64 % 64) ++ bits 6 (n % 64)) = bits 18 n := by
  rw [bits_digit, bits_two]
  exact (bits_add 6 12 n).symm

theorem bits_four (n : Nat) :
    bits 6 (n / 262144) ++ (bits 6 (n / 4096 % 64) ++ (bits 6 (n / 64 % 64) ++ bits 6 (n % 64))) =
      bits 24 n := by
  rw [bits_digit, bits_three]
  exact (bits_add 6 18 n).symm

/-- A byte below other bits. -/
theorem bits_byte (width high : Nat) (b : UInt8) :
    bits (width + 8) (high * 256 + b.toNat) = bits width high ++ bits 8 b.toNat :=
  bits_mul_add width b.toNat_lt

/-- Zeros below other bits. -/
theorem bits_shifted (width low high : Nat) :
    bits (width + low) (high * 2 ^ low) = bits width high ++ List.replicate low false := by
  have zero : bits low 0 = List.replicate low false := by
    induction low with
    | zero => rfl
    | succ low ih => rw [bits, Nat.zero_div, ih, List.replicate_succ']; rfl
  rw [← zero]
  exact bits_mul_add width (Nat.two_pow_pos low)

/-! ## Encoding -/

/-- A digit is spelled as the alphabet says. -/
theorem digit_eq_letter {n : Nat} (small : n < 64) : digit n = letter ⟨n, small⟩ := by
  have all : ∀ d : Fin 64, digit d.val = letter d := by
    unfold letter alphabet
    rw [String.toList_ofList]
    decide +kernel
  exact all ⟨n, small⟩

/-- A group of three bytes and four digits in front of others. -/
theorem Standard.cons {group bytes : Bytes} {digits : List (Fin 64)} {text : List Char}
    (four : digits.length = 4)
    (carried : digits.flatMap (bits 6 ·.val) = group.flatMap (bits 8 ·.toNat))
    (h : Standard bytes text) : Standard (group ++ bytes) (digits.map letter ++ text) := by
  cases h with
  | @spelled others zeros filling rest few fours least =>
  rw [← List.append_assoc, ← List.map_append]
  refine .spelled ?_ few ?_ least
  · rw [List.flatMap_append, List.flatMap_append, carried, rest, List.append_assoc]
  · rw [List.length_append, four, Nat.add_assoc]
    exact Nat.dvd_add (Nat.dvd_refl 4) fours

/-- **What the encoder writes is the standard form.** -/
theorem standard_encode : (bytes : Bytes) → Standard bytes (encode bytes)
  | [] => @Standard.spelled [] [] 0 0 rfl (by decide) (by decide) (by decide)
  | [a] => by
    have ha := a.toNat_lt
    have first : a.toNat * 16 / 64 < 64 := by omega
    have second : a.toNat * 16 % 64 < 64 := Nat.mod_lt _ (by decide)
    rw [encode, digit_eq_letter first, digit_eq_letter second]
    refine @Standard.spelled [a] [⟨_, first⟩, ⟨_, second⟩] 4 2 ?_ (by decide) ⟨1, rfl⟩ (by decide)
    simp only [List.flatMap_cons, List.flatMap_nil, List.append_nil]
    rw [bits_two]
    exact bits_shifted 8 4 a.toNat
  | [a, b] => by
    have ha := a.toNat_lt
    have hb := b.toNat_lt
    have first : (a.toNat * 256 + b.toNat) * 4 / 4096 < 64 := by omega
    have second : (a.toNat * 256 + b.toNat) * 4 / 64 % 64 < 64 := Nat.mod_lt _ (by decide)
    have third : (a.toNat * 256 + b.toNat) * 4 % 64 < 64 := Nat.mod_lt _ (by decide)
    rw [encode, digit_eq_letter first, digit_eq_letter second, digit_eq_letter third]
    refine @Standard.spelled [a, b] [⟨_, first⟩, ⟨_, second⟩, ⟨_, third⟩] 2 1 ?_ (by decide)
      ⟨1, rfl⟩ (by decide)
    simp only [List.flatMap_cons, List.flatMap_nil, List.append_nil]
    rw [bits_three, ← bits_byte]
    exact bits_shifted 16 2 _
  | a :: b :: c :: rest => by
    have ha := a.toNat_lt
    have hb := b.toNat_lt
    have hc := c.toNat_lt
    rw [encode]
    generalize number : (a.toNat * 256 + b.toNat) * 256 + c.toNat = n
    have first : n / 262144 < 64 := by omega
    have second : n / 4096 % 64 < 64 := Nat.mod_lt _ (by decide)
    have third : n / 64 % 64 < 64 := Nat.mod_lt _ (by decide)
    have fourth : n % 64 < 64 := Nat.mod_lt _ (by decide)
    rw [digit_eq_letter first, digit_eq_letter second, digit_eq_letter third,
      digit_eq_letter fourth]
    refine @Standard.cons [a, b, c] rest [⟨_, first⟩, ⟨_, second⟩, ⟨_, third⟩, ⟨_, fourth⟩] _ rfl ?_
      (standard_encode rest)
    simp only [List.flatMap_cons, List.flatMap_nil, List.append_nil]
    rw [bits_four, ← number, bits_byte 16, bits_byte 8, List.append_assoc]

/-- The standard form is made of the characters of the alphabet and `=`. -/
theorem Standard.mem {bytes : Bytes} {text : List Char} (h : Standard bytes text) {c : Char}
    (hc : c ∈ text) : c ∈ '=' :: alphabet := by
  have letters : ∀ d : Fin 64, letter d ∈ '=' :: alphabet := by
    unfold letter alphabet
    rw [String.toList_ofList]
    decide +kernel
  cases h with
  | spelled =>
  rcases List.mem_append.1 hc with hc | hc
  · obtain ⟨d, _, rfl⟩ := List.mem_map.1 hc
    exact letters d
  · obtain ⟨_, rfl⟩ := List.mem_replicate.1 hc
    exact List.mem_cons_self

/-! ## Decoding -/

/-- A digit reads back as its value, and is not taken for filling. -/
theorem value?_digit {n : Nat} (small : n < 64) : value? (digit n) = some n ∧ digit n ≠ '=' := by
  have all : ∀ k : Fin 64, value? (digit k.val) = some k.val ∧ digit k.val ≠ '=' := by
    decide +kernel
  exact all ⟨n, small⟩

/-- Four characters of which the last is no filling are a group of three bytes. -/
theorem decode?_cons {p q r s : Char} {rest : List Char} (digits : s ≠ '=') :
    decode? (p :: q :: r :: s :: rest) = do
      let n := (((← value? p) * 64 + (← value? q)) * 64 + (← value? r)) * 64 + (← value? s)
      let bytes ← decode? rest
      return UInt8.ofNat (n / 65536) :: UInt8.ofNat (n / 256) :: UInt8.ofNat n :: bytes := by
  -- the rows for the last group do not apply
  rw [decode?]
  · exact fun _ last _ => digits last
  · exact fun last _ => digits last

/-- A byte below others is what is left of the number. -/
theorem ofNat_mul_add (high : Nat) (b : UInt8) : UInt8.ofNat (high * 256 + b.toNat) = b := by
  have hb := b.toNat_lt
  rw [← UInt8.toNat_inj, UInt8.toNat_ofNat']
  omega

/-- **Decoding undoes encoding.** -/
theorem decode?_encode : (bytes : Bytes) → decode? (encode bytes) = some bytes
  | [] => rfl
  | [a] => by
    have ha := a.toNat_lt
    rw [encode]
    generalize number : a.toNat * 16 = n
    have first := (value?_digit (show n / 64 < 64 by omega)).1
    have second := (value?_digit (Nat.mod_lt n (by decide : 0 < 64))).1
    have whole : n / 64 * 64 + n % 64 = n := by omega
    have zeros : n % 16 = 0 := by omega
    have carried : n / 16 = a.toNat := by omega
    rw [decode?, first, second]
    change (guard ((n / 64 * 64 + n % 64) % 16 = 0) >>= fun _ =>
      some [UInt8.ofNat ((n / 64 * 64 + n % 64) / 16)]) = _
    rw [whole, carried, UInt8.ofNat_toNat, guard, if_pos zeros]
    rfl
  | [a, b] => by
    have ha := a.toNat_lt
    have hb := b.toNat_lt
    rw [encode]
    generalize number : (a.toNat * 256 + b.toNat) * 4 = n
    have first := (value?_digit (show n / 4096 < 64 by omega)).1
    have second := (value?_digit (Nat.mod_lt (n / 64) (by decide : 0 < 64))).1
    obtain ⟨third, unfilled⟩ := value?_digit (Nat.mod_lt n (by decide : 0 < 64))
    have whole : (n / 4096 * 64 + n / 64 % 64) * 64 + n % 64 = n := by omega
    have zeros : n % 4 = 0 := by omega
    have high : n / 1024 = a.toNat := by omega
    have low : n / 4 = a.toNat * 256 + b.toNat := by omega
    rw [decode?, first, second, third]
    · change (guard (((n / 4096 * 64 + n / 64 % 64) * 64 + n % 64) % 4 = 0) >>= fun _ =>
        some [UInt8.ofNat (((n / 4096 * 64 + n / 64 % 64) * 64 + n % 64) / 1024),
          UInt8.ofNat (((n / 4096 * 64 + n / 64 % 64) * 64 + n % 64) / 4)]) = _
      rw [whole, high, low, ofNat_mul_add, UInt8.ofNat_toNat, guard, if_pos zeros]
      rfl
    · exact unfilled
  | a :: b :: c :: rest => by
    have ha := a.toNat_lt
    have hb := b.toNat_lt
    have hc := c.toNat_lt
    rw [encode]
    generalize number : (a.toNat * 256 + b.toNat) * 256 + c.toNat = n
    have first := (value?_digit (show n / 262144 < 64 by omega)).1
    have second := (value?_digit (Nat.mod_lt (n / 4096) (by decide : 0 < 64))).1
    have third := (value?_digit (Nat.mod_lt (n / 64) (by decide : 0 < 64))).1
    obtain ⟨fourth, unfilled⟩ := value?_digit (Nat.mod_lt n (by decide : 0 < 64))
    have whole : ((n / 262144 * 64 + n / 4096 % 64) * 64 + n / 64 % 64) * 64 + n % 64 = n := by
      omega
    have high : n / 65536 = a.toNat := by omega
    have middle : n / 256 = a.toNat * 256 + b.toNat := by omega
    rw [decode?_cons unfilled, first, second, third, fourth, decode?_encode rest]
    change (fun m => some (UInt8.ofNat (m / 65536) :: UInt8.ofNat (m / 256) :: UInt8.ofNat m :: rest))
      (((n / 262144 * 64 + n / 4096 % 64) * 64 + n / 64 % 64) * 64 + n % 64) = _
    rw [whole]
    dsimp only
    rw [high, middle, ← number, ofNat_mul_add, ofNat_mul_add, UInt8.ofNat_toNat]

end WasmBindings.Base64
