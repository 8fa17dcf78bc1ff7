import Mathlib
import WasmBindings.Proofs.Binary.Simulation

/-!
# Writing and reading back

A number may be spelled with zero groups behind those that it needs. The writer puts none there, so
every other spelling is longer than what it writes, and ends in a zero byte
(`Leb128.SpelledBy.shortest_or_padded`). This makes the writer the inverse of the reader in both
directions: what is written is read back, and what was read is written again unless it was padded
(`Leb128.Inverse`).

The loop that writes a number puts its bytes behind what is already in the buffer, and stops when
the shifts have left nothing of the number (`Checked.append`). The bytes that it puts there are the
shortest form.
-/

namespace WasmBindings

namespace Leb128

/-! ## The shortest form -/

theorem encode_of_lt {n : Nat} (small : n < 128) : encode n = [UInt8.ofNat n] := by
  rw [encode, if_pos small]

theorem encode_of_le {n : Nat} (large : 128 ≤ n) :
    encode n = UInt8.ofNat (n % 128 + 128) :: encode (n / 128) := by
  rw [encode, if_neg (Nat.not_lt.2 large)]

theorem encode_ne_nil (n : Nat) : encode n ≠ [] := by
  rw [encode]
  split <;> exact List.cons_ne_nil _ _

/-- The shortest form ends in a zero group for zero only. -/
theorem getLast?_encode_ne_zero {n : Nat} (some : 0 < n) : (encode n).getLast? ≠ .some 0 := by
  induction n using Nat.strongRecOn with
  | ind n ih =>
    by_cases small : n < 128
    · rw [encode_of_lt small, List.getLast?_singleton, ne_eq, Option.some.injEq, ← UInt8.toNat_inj,
        UInt8.toNat_ofNat_of_lt' (Nat.lt_trans small (by decide))]
      exact Nat.ne_of_gt some
    · have large := Nat.not_lt.1 small
      rw [encode_of_le large, List.getLast?_cons_of_ne_nil (encode_ne_nil _)]
      exact ih (n / 128) (by omega) (by omega)

/-- A spelling other than the shortest is longer and ends in a zero group. -/
theorem SpelledBy.shortest_or_padded {bits n : Nat} {bytes : Bytes} (pos : 0 < bits)
    (h : SpelledBy bits n bytes) :
    bytes = encode n ∨ (encode n).length < bytes.length ∧ bytes.getLast? = some 0 := by
  -- induction on the groups; the number is one group shorter behind the first
  induction bytes generalizing bits n with
  | nil => exact absurd h not_spelledBy_nil
  | cons b rest ih =>
    by_cases last : b < 128
    · obtain ⟨rfl, rfl, _⟩ := (spelledBy_cons_last pos last).1 h
      rw [encode_of_lt (UInt8.lt_iff_toNat_lt.1 last), UInt8.ofNat_toNat]
      exact .inl rfl
    have wide : 8 ≤ bits := Nat.not_lt.1 fun narrow => not_spelledBy_cons narrow last h
    obtain ⟨bits, rfl⟩ := Nat.exists_eq_add_of_le' wide
    obtain ⟨high, spelled, rfl⟩ := (spelledBy_cons_more last).1 h
    have marked : 128 ≤ b.toNat := UInt8.le_iff_toNat_le.1 (UInt8.not_lt.1 last)
    have byte : b.toNat < 256 := b.toNat_lt
    have more : rest ≠ [] := fun none => not_spelledBy_nil (none ▸ spelled)
    rw [List.getLast?_cons_of_ne_nil more, List.length_cons]
    rcases Nat.eq_zero_or_pos high with rfl | some
    · -- nothing but zero groups follows, and the number is a group of its own
      have zero : rest.getLast? = some 0 := by
        rcases ih (Nat.succ_pos bits) spelled with same | ⟨_, zero⟩
        · rw [same, encode_of_lt (by decide)]
          rfl
        · exact zero
      have length : 0 < rest.length := List.length_pos_iff.2 more
      rw [encode_of_lt (by omega)]
      exact .inr ⟨Nat.succ_lt_succ length, zero⟩
    · have first : UInt8.ofNat ((b.toNat % 128 + 128 * high) % 128 + 128) = b := by
        rw [show (b.toNat % 128 + 128 * high) % 128 + 128 = b.toNat by omega, UInt8.ofNat_toNat]
      have behind : (b.toNat % 128 + 128 * high) / 128 = high := by omega
      rw [encode_of_le (by omega), first, behind, List.length_cons]
      refine (ih (Nat.succ_pos bits) spelled).imp (congrArg (b :: ·)) fun padded => ?_
      exact ⟨Nat.succ_lt_succ padded.1, padded.2⟩

/-- A spelling is the shortest form if it is a single byte or its last group is not zero. -/
theorem SpelledBy.eq_encode_iff {bits n : Nat} {bytes : Bytes} (pos : 0 < bits)
    (h : SpelledBy bits n bytes) :
    encode n = bytes ↔ bytes.length = 1 ∨ bytes.getLast? ≠ some 0 := by
  constructor
  · intro same
    rcases Nat.eq_zero_or_pos n with rfl | some
    · rw [← same, encode_of_lt (by decide)]
      exact .inl rfl
    · exact .inr (same ▸ getLast?_encode_ne_zero some)
  · intro given
    rcases h.shortest_or_padded pos with same | ⟨longer, zero⟩
    · exact same.symm
    · have length : 0 < (encode n).length := List.length_pos_iff.2 (encode_ne_nil n)
      rcases given with single | ended
      · omega
      · exact absurd zero ended

end Leb128

/-! ## Readers and writers -/

/-- Some bytes are read as a value wherever they stand, and reading stops in front of what
follows. -/
def Reader.Finds (r : Reader α) (a : α) (written : Bytes) : Prop :=
  ∀ before after, r ((Cursor.start (before ++ written ++ after)).advance before.length) =
    .ok (a, (Cursor.start (before ++ written ++ after)).advance (before ++ written).length)

/-- A reader and a writer of integers are inverse to each other, and what is written is the shortest
that is read. -/
structure Leb128.Inverse (read : Reader α) (write : α → Bytes) : Prop where
  /-- What is written is read back. -/
  back : ∀ a, read.Finds a (write a)
  /-- The written form is the one shortest that is read as the value, and it is what was read
  exactly if that is a single byte or does not end in a zero byte. -/
  again : ∀ c a c', read c = .ok (a, c') → ∃ taken,
    c.window = taken ++ c'.window ∧ c'.offset = c.offset + taken.length ∧
    (taken = write a ∨ (write a).length < taken.length) ∧
    (write a = taken ↔ taken.length = 1 ∨ taken.getLast? ≠ some 0)

/-- Behind the first bytes of a binary stand the others. -/
theorem Cursor.advance_start_append (before after : Bytes) :
    (start (before ++ after)).advance before.length = ⟨before.length, after⟩ := by
  simp only [start, advance, List.drop_left, Nat.zero_add]

/-- What spells something is read wherever it was written. -/
theorem Reader.Accepts.finds {r : Reader α} {S : Spelling α} (h : Accepts r S) {a : α}
    {written : Bytes} (spelled : S a written) : r.Finds a written := by
  intro before after
  rw [Cursor.advance_start_append (before ++ written), List.append_assoc,
    Cursor.advance_start_append, List.length_append]
  exact (h _ _ _).2 ⟨written, spelled, rfl, rfl⟩

/-- A reader of the spellings of numbers has the writer of their shortest forms as its inverse. -/
theorem Reader.Accepts.inverse {r : Reader α} {bits : Nat} {number : α → Nat} (pos : 0 < bits)
    (h : Accepts r fun a => Leb128.SpelledBy bits (number a)) (fits : ∀ a, number a < 2 ^ bits) :
    Leb128.Inverse r fun a => Leb128.encode (number a) where
  back a := h.finds (Leb128.spelledBy_encode pos (fits a))
  again c a c' run := by
    obtain ⟨taken, spelled, window, offset⟩ := (h c a c').1 run
    exact ⟨taken, window, offset, (spelled.shortest_or_padded pos).imp_right And.left,
      spelled.eq_encode_iff pos⟩

/-! ## The loop of a machine -/

namespace Checked

theorem toNat_shiftRight_seven (n : UInt64) : (n >>> 7).toNat = n.toNat / 128 := by
  rw [UInt64.toNat_shiftRight]
  exact Nat.shiftRight_eq_div_pow n.toNat 7

/-- Puts the groups of a number behind a buffer, the lowest first, until none is left. -/
def append (buffer : Bytes) (n : UInt64) : Bytes :=
  let group := (n &&& 0x7f).toUInt8
  if n >>> 7 = 0 then buffer ++ [group]
  else append (buffer ++ [group ||| 0x80]) (n >>> 7)
termination_by n.toNat
decreasing_by
  rename_i more
  rw [← UInt64.toNat_inj, toNat_shiftRight_seven, UInt64.toNat_zero] at more
  rw [toNat_shiftRight_seven]
  omega

theorem toUInt8_lowBits (n : UInt64) : (n &&& 0x7f).toUInt8 = UInt8.ofNat (n.toNat % 128) := by
  rw [← UInt8.toNat_inj, UInt64.toNat_toUInt8, UInt64.toNat_and, UInt8.toNat_ofNat']
  congr 1
  exact Nat.and_two_pow_sub_one_eq_mod n.toNat 7

/-- The top bit adds 128 to a group. -/
theorem ofNat_or_topBit {group : Nat} (small : group < 128) :
    UInt8.ofNat group ||| 0x80 = UInt8.ofNat (group + 128) := by
  have all : ∀ g : Fin 128, UInt8.ofNat g ||| 0x80 = UInt8.ofNat (g + 128) := by decide +kernel
  exact all ⟨group, small⟩

/-- The loop puts the shortest form behind the buffer. -/
theorem append_eq (buffer : Bytes) (n : UInt64) :
    append buffer n = buffer ++ Writer.u64 n := by
  unfold Writer.u64
  induction buffer, n using append.induct with
  | case1 buffer n done =>
    rw [append, if_pos done, toUInt8_lowBits]
    rw [← UInt64.toNat_inj, toNat_shiftRight_seven, UInt64.toNat_zero] at done
    have small : n.toNat < 128 := by omega
    rw [Nat.mod_eq_of_lt small, Leb128.encode_of_lt small]
  | case2 buffer n group more ih =>
    rw [append, if_neg more, ih, toNat_shiftRight_seven]
    rw [← UInt64.toNat_inj, toNat_shiftRight_seven, UInt64.toNat_zero] at more
    have large : 128 ≤ n.toNat := by omega
    have byte : group ||| 0x80 = UInt8.ofNat (n.toNat % 128 + 128) := by
      rw [← ofNat_or_topBit (Nat.mod_lt _ (by decide)), ← toUInt8_lowBits]
    rw [byte, Leb128.encode_of_le large, List.append_assoc, List.singleton_append]

end Checked

/-- The text of a name stands behind its size. -/
theorem Reader.name_eq_ok {c c' : Cursor} {text : String} (run : name c = .ok (text, c')) :
    ∃ size c₁, u32 c = .ok (size, c₁) ∧ size.toNat = (Utf8.encode text).length ∧
      c₁.window = Utf8.encode text ++ c'.window ∧
      c'.offset = c₁.offset + (Utf8.encode text).length := by
  obtain ⟨_, ⟨size, spelled, rfl⟩, window, offset⟩ := (Accepts.name c text c').1 run
  have same : (UInt32.ofNat (Utf8.encode text).length).toNat = (Utf8.encode text).length :=
    UInt32.toNat_ofNat_of_lt' spelled.fits
  refine ⟨UInt32.ofNat (Utf8.encode text).length,
    ⟨c.offset + size.length, Utf8.encode text ++ c'.window⟩, ?_, same, rfl, ?_⟩
  · refine (Accepts.u32 _ _ _).2 ⟨size, ?_, ?_, rfl⟩
    · rwa [Spelling.U32, same]
    · rw [window, List.append_assoc]
  · rw [offset, List.length_append, Nat.add_assoc]

/-- **What is written is read back, and what was read is written again unless it was padded.** The
loops write the same, whatever the buffer holds. -/
theorem writers_inverse_to_readers :
    (∀ buffer (n : UInt32), Checked.append buffer n.toUInt64 = buffer ++ Writer.u32 n) ∧
    (∀ buffer (n : UInt64), Checked.append buffer n = buffer ++ Writer.u64 n) ∧
    Leb128.Inverse Reader.u32 Writer.u32 ∧ Leb128.Inverse Reader.u64 Writer.u64 ∧
    (∀ text, (Utf8.encode text).length < 2 ^ 32 → Reader.name.Finds text (Writer.name text)) ∧
    ∀ c text c', Reader.name c = .ok (text, c') → ∃ size c₁, Reader.u32 c = .ok (size, c₁) ∧
      size.toNat = (Utf8.encode text).length ∧ c₁.window = Utf8.encode text ++ c'.window ∧
      c'.offset = c₁.offset + (Utf8.encode text).length := by
  refine ⟨fun buffer n => ?_, Checked.append_eq, ?_, ?_, ?_, fun c text c' => Reader.name_eq_ok⟩
  · rw [Checked.append_eq, Writer.u64, UInt32.toNat_toUInt64, Writer.u32]
  · exact Reader.Accepts.u32.inverse (by decide) UInt32.toNat_lt
  · exact Reader.Accepts.u64.inverse (by decide) UInt64.toNat_lt
  · exact fun text small => Reader.Accepts.name.finds (Writer.name_spells small)

/-- A name of one letter and two bytes is read back from the middle of a binary, and five that was
padded to three bytes is written as one. -/
theorem writers_inverse_to_readers_padded :
    (Utf8.encode "é").length < 2 ^ 32 ∧ Reader.name.Finds "é" [0x02, 0xc3, 0xa9] ∧
    Reader.name ⟨3, [0x82, 0x00, 0xc3, 0xa9, 0x07]⟩ = .ok ("é", ⟨7, [0x07]⟩) ∧
    (∃ size c₁, Reader.u32 ⟨3, [0x82, 0x00, 0xc3, 0xa9, 0x07]⟩ = .ok (size, c₁) ∧
      c₁.window = [0xc3, 0xa9] ++ [0x07]) ∧
    Reader.u32 ⟨0, [0x85, 0x80, 0x00]⟩ = .ok (5, ⟨3, []⟩) ∧
      Writer.u32 5 ≠ [0x85, 0x80, 0x00] := by
  obtain ⟨_, _, narrow, _, finds, text⟩ := writers_inverse_to_readers
  have small : (Utf8.encode "é").length < 2 ^ 32 := by decide +kernel
  have letter : Utf8.encode "é" = [0xc3, 0xa9] := by decide +kernel
  have name : Reader.name ⟨3, [0x82, 0x00, 0xc3, 0xa9, 0x07]⟩ = .ok ("é", ⟨7, [0x07]⟩) := by cbv
  have five : Reader.u32 ⟨0, [0x85, 0x80, 0x00]⟩ = .ok (5, ⟨3, []⟩) := by cbv
  have written : Writer.name "é" = [0x02, 0xc3, 0xa9] := by decide +kernel
  obtain ⟨size, c₁, read, _, window, _⟩ := text _ _ _ name
  obtain ⟨taken, split, _, _, same⟩ := narrow.again _ _ _ five
  refine ⟨small, written ▸ finds _ small, name, ⟨size, c₁, read, letter ▸ window⟩, five, ?_⟩
  rw [show taken = [0x85, 0x80, 0x00] from (split.trans (List.append_nil _)).symm] at same
  exact fun again => absurd (same.1 again) (by decide)

end WasmBindings
