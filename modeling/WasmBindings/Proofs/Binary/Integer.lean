import Mathlib.Algebra.Group.Nat.Defs
import WasmBindings.Binary.Writer
import WasmBindings.Proofs.Binary.Accepts

/-!
# Integers, names and vectors as spellings

`Leb128.SpelledBy bits` says which bytes stand for a number of at most `bits` bits, without saying
how they are read: every byte but the last has its top bit set, there are no more of them than the
width needs, and the seven-bit groups amount to a number that fits the width. A number has several
spellings, for zero groups may be put behind it as long as the bytes do not become too many; the
writer chooses the shortest (`Leb128.spelledBy_encode`).

Names and vectors start with such a number, which is why both directions are settled here: what the
readers accept, and that the written forms are among it.
-/

namespace WasmBindings

namespace Leb128

/-- What the groups of some bytes amount to, the least significant group first. -/
def value (bytes : Bytes) : Nat :=
  bytes.foldr (fun b high => b.toNat % 128 + 128 * high) 0

/-- The spellings of a number of at most `bits` bits. -/
structure SpelledBy (bits n : Nat) (bytes : Bytes) : Prop where
  /-- The top bit says of every byte whether another follows. -/
  marked : ∃ front last, bytes = front ++ [last] ∧ (∀ b ∈ front, 128 ≤ b) ∧ last < 128
  /-- There are no more groups than the width needs. -/
  short : bytes.length ≤ (bits + 6) / 7
  /-- The groups amount to the number. -/
  amount : value bytes = n
  /-- The number fits the width. -/
  fits : n < 2 ^ bits

/-- A byte without the top bit is the only one. -/
theorem spelledBy_cons_last {bits n : Nat} {b : UInt8} {rest : Bytes} (pos : 0 < bits)
    (hb : b < 128) : SpelledBy bits n (b :: rest) ↔ rest = [] ∧ n = b.toNat ∧ n < 2 ^ bits := by
  have small : b.toNat < 128 := UInt8.lt_iff_toNat_lt.mp hb
  constructor
  · intro h
    obtain ⟨⟨front, last, split, more, _⟩, _, amount, fits⟩ := h
    cases front with
    | nil =>
      obtain ⟨rfl, rfl⟩ : b = last ∧ rest = [] := by simpa using split
      refine ⟨rfl, ?_, fits⟩
      rw [← amount]
      simp [value, Nat.mod_eq_of_lt small]
    -- then `b` would be marked, and would not be below 128
    | cons first front =>
      obtain ⟨rfl, _⟩ : b = first ∧ rest = front ++ [last] := by simpa using split
      exact absurd (UInt8.le_iff_toNat_le.mp (more b (by simp))) (Nat.not_le.mpr small)
  · intro h
    obtain ⟨rfl, rfl, fits⟩ := h
    refine ⟨⟨[], b, rfl, by simp, hb⟩, ?_, ?_, fits⟩
    · rw [List.length_singleton]
      omega
    · simp [value, Nat.mod_eq_of_lt small]

/-- A byte without the top bit spells itself. -/
theorem spelledBy_singleton (b : UInt8) (small : b < 128) : SpelledBy 32 b.toNat [b] :=
  (spelledBy_cons_last (by decide) small).2 ⟨rfl, rfl, Nat.lt_trans b.toNat_lt (by decide)⟩

/-- Behind a byte with the top bit stands the rest of the number, seven bits narrower. -/
theorem spelledBy_cons_more {bits n : Nat} {b : UInt8} {rest : Bytes} (hb : ¬ b < 128) :
    SpelledBy (bits + 8) n (b :: rest) ↔
      ∃ high, SpelledBy (bits + 1) high rest ∧ n = b.toNat % 128 + 128 * high := by
  have width : 2 ^ (bits + 8) = 128 * 2 ^ (bits + 1) := by
    rw [Nat.pow_add 2 bits 8, Nat.pow_add 2 bits 1]
    omega
  have low : b.toNat % 128 < 128 := Nat.mod_lt _ (by decide)
  constructor
  · intro h
    obtain ⟨⟨front, last, split, more, ended⟩, short, amount, fits⟩ := h
    cases front with
    | nil =>
      -- `b` has the top bit, so it is not the last byte
      obtain ⟨rfl, rfl⟩ : b = last ∧ rest = [] := by simpa using split
      exact absurd ended hb
    | cons first front =>
      obtain ⟨rfl, rfl⟩ : b = first ∧ rest = front ++ [last] := by simpa using split
      have amount' : b.toNat % 128 + 128 * value (front ++ [last]) = n := amount
      refine ⟨value (front ++ [last]), ⟨⟨front, last, rfl, ?_, ended⟩, ?_, rfl, ?_⟩, amount'.symm⟩
      · exact fun x hx => more x (List.mem_cons_of_mem _ hx)
      · rw [List.length_cons] at short
        omega
      · omega
  · intro h
    obtain ⟨high, ⟨⟨front, last, rfl, more, ended⟩, short, amount, fits⟩, rfl⟩ := h
    refine ⟨⟨b :: front, last, rfl, ?_, ended⟩, ?_, ?_, ?_⟩
    · intro x hx
      rcases List.mem_cons.mp hx with rfl | hx
      · exact UInt8.not_lt.mp hb
      · exact more x hx
    · rw [List.length_cons]
      omega
    · rw [← amount]
      rfl
    · omega

/-- A width of one group leaves no room behind a byte with the top bit. -/
theorem not_spelledBy_cons {bits n : Nat} {b : UInt8} {rest : Bytes} (narrow : bits < 8)
    (hb : ¬ b < 128) : ¬ SpelledBy bits n (b :: rest) := by
  intro h
  obtain ⟨⟨front, last, split, _, ended⟩, short, _, _⟩ := h
  rw [List.length_cons] at short
  -- so narrow a width allows for one byte, which would have to be the last
  have none : rest.length = 0 := by omega
  obtain rfl : rest = [] := List.length_eq_zero_iff.mp none
  cases front with
  | nil =>
    obtain rfl : b = last := by simpa using split
    exact hb ended
  | cons => exact absurd (congrArg List.length split) (by simp)

theorem not_spelledBy_nil {bits n : Nat} : ¬ SpelledBy bits n [] := by
  intro h
  obtain ⟨⟨front, last, split, _⟩, _⟩ := h
  exact absurd split (by simp)

/-- The shortest form is a spelling, at any width that the number fits. -/
theorem spelledBy_encode {bits n : Nat} (pos : 0 < bits) (fits : n < 2 ^ bits) :
    SpelledBy bits n (encode n) := by
  induction n using Nat.strongRecOn generalizing bits with
  | ind n ih =>
    rw [encode]
    split
    · next small =>
      have byte : (UInt8.ofNat n).toNat = n :=
        UInt8.toNat_ofNat_of_lt' (Nat.lt_trans small (by decide))
      refine (spelledBy_cons_last pos ?_).2 ⟨rfl, byte.symm, fits⟩
      rw [UInt8.lt_iff_toNat_lt, byte]
      exact small
    · next large =>
      have byte : (UInt8.ofNat (n % 128 + 128)).toNat = n % 128 + 128 :=
        UInt8.toNat_ofNat_of_lt' (show _ < 256 by omega)
      -- a number of more than seven bits only fits a width of at least eight
      obtain ⟨rest, rfl⟩ : ∃ rest, bits = rest + 8 := by
        refine ⟨bits - 8, (Nat.sub_add_cancel (Nat.le_of_not_lt fun narrow => large ?_)).symm⟩
        exact Nat.lt_of_lt_of_le fits
          (Nat.pow_le_pow_right (by decide) (Nat.le_of_lt_succ narrow) : 2 ^ bits ≤ 2 ^ 7)
      have width : 2 ^ (rest + 8) = 128 * 2 ^ (rest + 1) := by
        rw [Nat.pow_add 2 rest 8, Nat.pow_add 2 rest 1]
        omega
      refine (spelledBy_cons_more ?_).2
        ⟨n / 128, ih (n / 128) (by omega) (Nat.succ_pos rest) (by omega), ?_⟩
      · rw [UInt8.lt_iff_toNat_lt, byte]
        exact Nat.not_lt.mpr (Nat.le_add_left _ _)
      · rw [byte]
        omega

end Leb128

namespace Spelling

/-- A 32-bit integer. -/
def U32 (n : UInt32) (bytes : Bytes) : Prop := Leb128.SpelledBy 32 n.toNat bytes

/-- A 64-bit integer. -/
def U64 (n : UInt64) (bytes : Bytes) : Prop := Leb128.SpelledBy 64 n.toNat bytes

/-- A name: the number of its bytes, then its UTF-8. -/
def Name (text : String) (bytes : Bytes) : Prop :=
  ∃ size, Leb128.SpelledBy 32 (Utf8.encode text).length size ∧ bytes = size ++ Utf8.encode text

/-- A vector: the number of its items, then the items. -/
def Vector (S : Spelling α) (items : List α) (bytes : Bytes) : Prop :=
  ∃ count body, Leb128.SpelledBy 32 items.length count ∧ Items S items body ∧
    bytes = count ++ body

end Spelling

/-! ## What the readers accept -/

/-- The end of reading a name: the text of its bytes, if they are valid. -/
def Reader.text (start : Nat) (raw : Bytes) : Reader String :=
  match Utf8.decode? raw with
  | some text => pure text
  | none => throw (.malformedUtf8 start)

namespace Reader.Accepts

/-- A byte that may have another behind it: the rest of the number is one group narrower. -/
theorem moreGroups {r : Reader Nat} {bits : Nat} (h : Accepts r (Leb128.SpelledBy (bits + 1))) :
    Accepts (Reader.byte >>= fun b => if b < 128 then pure b.toNat
        else r >>= fun high => pure (b.toNat % 128 + 128 * high))
      (Leb128.SpelledBy (bits + 8)) := by
  refine (Accepts.byteThen fun b => (Accepts.pure b.toNat).ite (p := b < 128)
    (h.map fun high => b.toNat % 128 + 128 * high)).congr fun n bytes => ?_
  have pos : 0 < bits + 8 := by omega
  constructor
  · intro given
    obtain ⟨b, rest, spelled, rfl⟩ := given
    split at spelled
    · next hb =>
      obtain ⟨rfl, rfl⟩ := spelled
      have small : b.toNat < 2 ^ 7 := UInt8.lt_iff_toNat_lt.mp hb
      exact (Leb128.spelledBy_cons_last pos hb).2
        ⟨rfl, rfl, Nat.lt_of_lt_of_le small (Nat.pow_le_pow_right (by decide) (by omega))⟩
    · next hb => exact (Leb128.spelledBy_cons_more hb).2 spelled
  · intro spelled
    cases bytes with
    | nil => exact (Leb128.not_spelledBy_nil spelled).elim
    | cons b rest =>
      refine ⟨b, rest, ?_, rfl⟩
      split
      · next hb =>
        obtain ⟨rfl, rfl, _⟩ := (Leb128.spelledBy_cons_last pos hb).1 spelled
        exact ⟨rfl, rfl⟩
      · next hb => exact (Leb128.spelledBy_cons_more hb).1 spelled

/-- A byte that has to be the last, and whose unused bits have to be zero. -/
theorem lastGroup (start : Nat) {bits : Nat} (pos : 0 < bits) (narrow : bits < 8) :
    Accepts (Reader.byte >>= fun b => if b ≥ 128 then throw (.integerTooLong start)
        else if b.toNat >>> bits ≠ 0 then throw (.integerTooLarge start) else pure b.toNat)
      (Leb128.SpelledBy bits) := by
  refine (Accepts.byteThen fun b => (Accepts.throw (.integerTooLong start)).ite (p := b ≥ 128)
    ((Accepts.throw (.integerTooLarge start)).ite (p := b.toNat >>> bits ≠ 0)
      (Accepts.pure b.toNat))).congr fun n bytes => ?_
  -- no bit above the width is set exactly if the byte fits the width
  have unused : ∀ b : UInt8, b.toNat >>> bits = 0 ↔ b.toNat < 2 ^ bits := by
    intro b
    rw [Nat.shiftRight_eq_div_pow, Nat.div_eq_zero_iff_lt (Nat.two_pow_pos bits)]
  constructor
  · intro given
    obtain ⟨b, rest, spelled, rfl⟩ := given
    split at spelled
    · exact spelled.elim
    · next hb =>
      split at spelled
      · exact spelled.elim
      · next fits =>
        obtain ⟨rfl, rfl⟩ := spelled
        exact (Leb128.spelledBy_cons_last pos (UInt8.not_le.mp hb)).2
          ⟨rfl, rfl, (unused b).1 (Decidable.not_not.mp fits)⟩
  · intro spelled
    cases bytes with
    | nil => exact (Leb128.not_spelledBy_nil spelled).elim
    | cons b rest =>
      by_cases hb : b < 128
      · obtain ⟨rfl, rfl, fits⟩ := (Leb128.spelledBy_cons_last pos hb).1 spelled
        -- both refusals are passed: the byte ends the number, and it fits
        refine ⟨b, [], ?_, rfl⟩
        rw [if_neg (UInt8.not_le.mpr hb), if_neg (Decidable.not_not.mpr ((unused b).2 fits))]
        exact ⟨rfl, rfl⟩
      · exact (Leb128.not_spelledBy_cons narrow hb spelled).elim

protected theorem groups (start : Nat) {bits : Nat} (pos : 0 < bits) :
    Accepts (Leb128.groups start bits) (Leb128.SpelledBy bits) := by
  induction bits using Nat.strongRecOn with
  | ind bits ih =>
    unfold Leb128.groups
    split
    · next bits => exact moreGroups (ih (bits + 1) (by omega) (by omega))
    · next wide =>
      have narrow : bits < 8 := Nat.lt_of_not_le fun h => wide (bits - 8) (by omega)
      exact lastGroup start pos narrow

protected theorem read (bits : Nat) (pos : 0 < bits) :
    Accepts (Leb128.read bits) (Leb128.SpelledBy bits) :=
  Accepts.located fun start => Accepts.groups start pos

protected theorem u32 : Accepts Reader.u32 Spelling.U32 := by
  refine ((Accepts.read 32 (by decide)).map UInt32.ofNat).congr fun n bytes => ?_
  constructor
  · intro h
    obtain ⟨k, spelled, rfl⟩ := h
    have same : (UInt32.ofNat k).toNat = k := UInt32.toNat_ofNat_of_lt' spelled.fits
    rwa [Spelling.U32, same]
  · exact fun spelled => ⟨n.toNat, spelled, UInt32.ofNat_toNat.symm⟩

protected theorem u64 : Accepts Reader.u64 Spelling.U64 := by
  refine ((Accepts.read 64 (by decide)).map UInt64.ofNat).congr fun n bytes => ?_
  constructor
  · intro h
    obtain ⟨k, spelled, rfl⟩ := h
    have same : (UInt64.ofNat k).toNat = k := UInt64.toNat_ofNat_of_lt' spelled.fits
    rwa [Spelling.U64, same]
  · exact fun spelled => ⟨n.toNat, spelled, UInt64.ofNat_toNat.symm⟩

/-- A size and then something of that size. -/
theorem u32Then {f : UInt32 → Reader α} {T : Nat → Spelling α}
    (h : ∀ n, Accepts (f n) (T n.toNat)) :
    Accepts (Reader.u32 >>= f) (fun a bytes => ∃ n size rest,
      Leb128.SpelledBy 32 n size ∧ T n a rest ∧ bytes = size ++ rest) := by
  refine (Accepts.u32.bind h).congr fun a bytes => ?_
  constructor
  · intro given
    obtain ⟨n, size, rest, spelled, ha, rfl⟩ := given
    exact ⟨n.toNat, size, rest, spelled, ha, rfl⟩
  · intro given
    obtain ⟨n, size, rest, spelled, ha, rfl⟩ := given
    have same : (UInt32.ofNat n).toNat = n := UInt32.toNat_ofNat_of_lt' spelled.fits
    exact ⟨UInt32.ofNat n, size, rest, by rwa [Spelling.U32, same], by rwa [same], rfl⟩

/-- Decoding is inverse to encoding, so valid bytes have one text and others have none. -/
protected theorem text (start : Nat) (raw : Bytes) : Accepts (Reader.text start raw)
    (fun text bytes => Utf8.encode text = raw ∧ bytes = []) := by
  unfold Reader.text
  cases decoded : Utf8.decode? raw with
  | some text =>
    refine (Accepts.pure text).congr fun other bytes => ?_
    rw [← Utf8.decode?_eq_some_iff, decoded, Option.some.injEq, eq_comm]
  | none =>
    refine (Accepts.throw _).congr fun other bytes => ?_
    rw [← Utf8.decode?_eq_some_iff, decoded]
    simp

protected theorem name : Accepts Reader.name Spelling.Name := by
  have text : ∀ size : UInt32, Accepts
      (Reader.offset >>= fun start => Reader.bytes size.toNat >>= Reader.text start)
      (fun text bytes => (Utf8.encode text).length = size.toNat ∧ bytes = Utf8.encode text) := by
    refine fun size => Accepts.located fun start =>
      ((Accepts.bytes size.toNat).bind (Accepts.text start)).congr fun text bytes => ?_
    constructor
    · intro h
      obtain ⟨raw, front, back, ⟨rfl, size⟩, ⟨rfl, rfl⟩, rfl⟩ := h
      exact ⟨size, List.append_nil _⟩
    · intro h
      obtain ⟨size, rfl⟩ := h
      exact ⟨_, _, [], ⟨rfl, size⟩, ⟨rfl, rfl⟩, (List.append_nil _).symm⟩
  refine (Accepts.u32Then (T := fun n text bytes => (Utf8.encode text).length = n ∧
    bytes = Utf8.encode text) text).congr fun text bytes => ?_
  constructor
  · intro h
    obtain ⟨_, size, _, spelled, ⟨rfl, rfl⟩, rfl⟩ := h
    exact ⟨size, spelled, rfl⟩
  · intro h
    obtain ⟨size, spelled, rfl⟩ := h
    exact ⟨_, size, _, spelled, ⟨rfl, rfl⟩, rfl⟩

protected theorem vector {r : Reader α} {S : Spelling α} (h : Accepts r S) :
    Accepts (Reader.vector r) (Spelling.Vector S) := by
  refine (Accepts.u32Then (T := fun n items bytes => items.length = n ∧
    Spelling.Items S items bytes) fun count => h.times count.toNat).congr fun items bytes => ?_
  constructor
  · intro given
    obtain ⟨_, count, body, spelled, ⟨rfl, items⟩, rfl⟩ := given
    exact ⟨count, body, spelled, items, rfl⟩
  · intro given
    obtain ⟨count, body, spelled, items, rfl⟩ := given
    exact ⟨_, count, body, spelled, ⟨rfl, items⟩, rfl⟩

end Reader.Accepts

/-! ## What the writers produce -/

namespace Writer

theorem u32_spells (n : UInt32) : Spelling.U32 n (u32 n) :=
  Leb128.spelledBy_encode (by decide) n.toNat_lt

theorem u64_spells (n : UInt64) : Spelling.U64 n (u64 n) :=
  Leb128.spelledBy_encode (by decide) n.toNat_lt

/-- A size below 2^32 is written as it is. -/
theorem size_spells {n : Nat} (small : n < 2 ^ 32) : Leb128.SpelledBy 32 n (size n) := by
  have same : (UInt32.ofNat n).toNat = n := UInt32.toNat_ofNat_of_lt' small
  have spelled := u32_spells (UInt32.ofNat n)
  rwa [Spelling.U32, same] at spelled

theorem name_spells {text : String} (small : (Utf8.encode text).length < 2 ^ 32) :
    Spelling.Name text (name text) :=
  ⟨_, size_spells small, rfl⟩

end Writer

end WasmBindings
