import Mathlib.Algebra.BigOperators.Ring.List
import Mathlib.Algebra.Ring.Nat
import Mathlib.Logic.Relation
import WasmBindings.Proofs.Binary.Fault
import WasmBindings.Proofs.Binary.Simulation

/-!
# How the reading of an integer ends

An integer of `bits` bits may take as many bytes as the width has groups of seven, and the first
byte without the top bit ends it. So the window alone decides how reading it ends, in one of four
ways (`Leb128.Ending`): it is read, the window is cut off in front of its end, it goes on for too
long, or it is too large, which only its last possible byte can make it. `Leb128.ending_groups`
follows the groups from one to the next, and no window is of two kinds (`Leb128.Ending.unique`).

A machine puts the number together in 64 bits. `Checked.Loop` is where it stands between two bytes,
and the invariant of the loop is that the groups read so far fill no more bits than have been passed
and that there is room for another (`Checked.Loop.Fits`). From it, no shift moves a bit out of the
word, no group is laid over another, and the loop never runs out of bytes that it may take
(`Checked.Loop.Exact`).
-/

namespace WasmBindings

namespace Leb128

/-- Some bytes start with an integer of this size: its last byte is the first without the top
bit. -/
structure EndsAt (window : Bytes) (size : Nat) : Prop where
  some : 1 ≤ size
  enough : size ≤ window.length
  marked : ∀ b ∈ window.take (size - 1), 128 ≤ b
  ended : ∃ last, window[size - 1]? = .some last ∧ last < 128

/-- The groups of some bytes at their places, the least significant first. -/
def groupSum (bytes : Bytes) : Nat :=
  (bytes.zipIdx.map fun p => p.1.toNat % 128 * 128 ^ p.2).sum

/-- How reading an integer of `bits` bits that begins at `start` ends, by the window of the cursor;
`number` is what the value read stands for. -/
inductive Ending (bits : Nat) (number : α → Nat) (start : Nat) (c : Cursor) :
    Except FormatError (α × Cursor) → Prop
  /-- It ends in time, and it fits the width. -/
  | read {a : α} {size : Nat} (ends : EndsAt c.window size) (short : size ≤ (bits + 6) / 7)
      (amount : number a = groupSum (c.window.take size)) (fits : number a < 2 ^ bits) :
      Ending bits number start c (.ok (a, c.advance size))
  /-- The window ends before the integer does, at which point a byte is missing. -/
  | cut (short : c.window.length < (bits + 6) / 7) (marked : ∀ b ∈ c.window, 128 ≤ b) :
      Ending bits number start c (.error (.unexpectedEnd (c.offset + c.window.length) 1))
  /-- The last byte that it may have is not its last. -/
  | tooLong (long : (bits + 6) / 7 ≤ c.window.length)
      (marked : ∀ b ∈ c.window.take ((bits + 6) / 7), 128 ≤ b) :
      Ending bits number start c (.error (.integerTooLong start))
  /-- It ends with the last byte that it may have, and does not fit the width. -/
  | tooLarge (ends : EndsAt c.window ((bits + 6) / 7))
      (large : 2 ^ bits ≤ groupSum (c.window.take ((bits + 6) / 7))) :
      Ending bits number start c (.error (.integerTooLarge start))

/-! ## Ends -/

namespace EndsAt

variable {window rest : Bytes} {b : UInt8} {size other : Nat}

/-- A byte without the top bit is an integer of its own. -/
theorem single (rest : Bytes) (h : b < 128) : EndsAt (b :: rest) 1 where
  some := Nat.le_refl 1
  enough := Nat.le_add_left 1 _
  marked := by simp
  ended := ⟨b, rfl, h⟩

/-- A byte with the top bit puts the end off by one. -/
theorem cons (marked : 128 ≤ b) (h : EndsAt rest size) : EndsAt (b :: rest) (size + 1) := by
  obtain ⟨size, rfl⟩ := Nat.exists_eq_add_of_le' h.some
  refine ⟨Nat.le_add_left 1 _, Nat.succ_le_succ h.enough, ?_, h.ended⟩
  exact List.forall_mem_cons.2 ⟨marked, h.marked⟩

/-- Where an integer ends stands a byte without the top bit. -/
theorem not_marked (h : EndsAt window size) (within : size ≤ other) :
    ¬ ∀ b ∈ window.take other, 128 ≤ b := by
  intro marked
  obtain ⟨last, found, ended⟩ := h.ended
  have positive := h.some
  have inside : last ∈ window.take other := by
    refine List.mem_iff_getElem?.2 ⟨size - 1, ?_⟩
    rw [List.getElem?_take_of_lt (by omega), found]
  exact absurd (marked last inside) (UInt8.not_le.2 ended)

/-- An integer ends in one place only. -/
theorem unique (h : EndsAt window size) (h' : EndsAt window other) : size = other := by
  rcases Nat.lt_trichotomy size other with less | same | more
  · exact absurd h'.marked (h.not_marked (Nat.le_sub_one_of_lt less))
  · exact same
  · exact absurd h.marked (h'.not_marked (Nat.le_sub_one_of_lt more))

end EndsAt

/-! ## Sums of groups -/

theorem groupSum_cons (b : UInt8) (rest : Bytes) :
    groupSum (b :: rest) = b.toNat % 128 + 128 * groupSum rest := by
  have higher (p : UInt8 × Nat) :
      p.1.toNat % 128 * 128 ^ (p.2 + 1) = 128 * (p.1.toNat % 128 * 128 ^ p.2) := by
    rw [Nat.pow_succ', Nat.mul_left_comm]
  unfold groupSum
  rw [List.zipIdx_cons, List.zipIdx_succ, List.map_cons, List.sum_cons, List.map_map,
    ← List.sum_map_mul_left]
  simp only [Function.comp_def, higher, Nat.pow_zero, Nat.mul_one]

/-- A byte without the top bit is its own sum. -/
theorem groupSum_single {b : UInt8} (rest : Bytes) (h : b < 128) :
    groupSum ((b :: rest).take 1) = b.toNat := by
  have small : b.toNat < 128 := UInt8.lt_iff_toNat_lt.1 h
  rw [List.take_succ_cons, List.take_zero, groupSum_cons, Nat.mod_eq_of_lt small]
  rfl

/-! ## Every window is of one kind -/

namespace Ending

variable {α β : Type} {bits start : Nat} {number : α → Nat} {c : Cursor}

/-- A byte with the top bit stands in front of an integer that is one group narrower. -/
theorem cons {offset : Nat} {b : UInt8} {rest : Bytes} {result : Except FormatError (Nat × Cursor)}
    (marked : 128 ≤ b) (h : Ending (bits + 1) id start ⟨offset + 1, rest⟩ result) :
    Ending (bits + 8) id start ⟨offset, b :: rest⟩
      (result.map fun p => (b.toNat % 128 + 128 * p.1, p.2)) := by
  have groups := groups_succ bits
  have width : 2 ^ (bits + 8) = 128 * 2 ^ (bits + 1) := by
    rw [Nat.pow_add 2 bits 8, Nat.pow_add 2 bits 1]
    omega
  have low : b.toNat % 128 < 128 := Nat.mod_lt _ (by decide)
  cases h with
  | @read n size ends short amount fits =>
    have moved : Cursor.advance ⟨offset + 1, rest⟩ size =
        Cursor.advance ⟨offset, b :: rest⟩ (size + 1) := by
      unfold Cursor.advance
      rw [Nat.add_right_comm, Nat.add_assoc]
      rfl
    change Ending _ _ _ _ (.ok (b.toNat % 128 + 128 * n, Cursor.advance ⟨offset + 1, rest⟩ size))
    rw [moved]
    refine .read (ends.cons marked) (by omega) ?_ ?_
    · rw [List.take_succ_cons, groupSum_cons, ← amount]
      rfl
    · dsimp only [id] at fits ⊢
      omega
  | cut short all =>
    have stop : offset + 1 + rest.length = offset + (b :: rest).length := by
      rw [List.length_cons]
      omega
    dsimp only at short
    change Ending _ _ _ _ (.error (.unexpectedEnd (offset + 1 + rest.length) 1))
    rw [stop]
    refine .cut ?_ (List.forall_mem_cons.2 ⟨marked, all⟩)
    rw [List.length_cons]
    omega
  | tooLong long all =>
    refine .tooLong ?_ ?_
    · dsimp only at long
      rw [List.length_cons]
      omega
    · rw [groups, List.take_succ_cons]
      exact List.forall_mem_cons.2 ⟨marked, all⟩
  | tooLarge ends large =>
    refine .tooLarge ?_ ?_
    · rw [groups]
      exact ends.cons marked
    · rw [groups, List.take_succ_cons, groupSum_cons, width]
      dsimp only at large
      omega

/-- What is read may be given as a value of another kind. -/
theorem map {number' : β → Nat} {result : Except FormatError (α × Cursor)} {f : α → β}
    (h : Ending bits number start c result)
    (same : ∀ a, number a < 2 ^ bits → number' (f a) = number a) :
    Ending bits number' start c (result.map fun p => (f p.1, p.2)) := by
  cases h with
  | read ends short amount fits =>
    exact .read ends short ((same _ fits).trans amount) ((same _ fits).symm ▸ fits)
  | cut short marked => exact .cut short marked
  | tooLong long marked => exact .tooLong long marked
  | tooLarge ends large => exact .tooLarge ends large

/-- No window is of two kinds, and a number has one value. -/
theorem unique (inj : number.Injective) {result other : Except FormatError (α × Cursor)}
    (h : Ending bits number start c result) (h' : Ending bits number start c other) :
    result = other := by
  have all (k : Nat) (short : c.window.length < k) (marked : ∀ b ∈ c.window, 128 ≤ b) :
      ∀ b ∈ c.window.take k, 128 ≤ b :=
    fun b hb => marked b (List.mem_of_mem_take hb)
  cases h with
  | read ends short amount fits =>
    cases h' with
    | read ends' _ amount' =>
      obtain rfl := ends.unique ends'
      rw [inj (amount.trans amount'.symm)]
    | cut short' marked => exact absurd (all _ short' marked) (ends.not_marked short)
    | tooLong _ marked => exact absurd marked (ends.not_marked short)
    | tooLarge ends' large =>
      obtain rfl := ends.unique ends'
      exact absurd (amount ▸ large) (Nat.not_le.2 fits)
  | cut short marked =>
    cases h' with
    | read ends short' => exact absurd (all _ short marked) (ends.not_marked short')
    | cut => rfl
    | tooLong long => exact absurd short (Nat.not_lt.2 long)
    | tooLarge ends => exact absurd (all _ short marked) (ends.not_marked (Nat.le_refl _))
  | tooLong long marked =>
    cases h' with
    | read ends short => exact absurd marked (ends.not_marked short)
    | cut short => exact absurd short (Nat.not_lt.2 long)
    | tooLong => rfl
    | tooLarge ends => exact absurd marked (ends.not_marked (Nat.le_refl _))
  | tooLarge ends large =>
    cases h' with
    | read ends' _ amount fits =>
      obtain rfl := ends.unique ends'
      exact absurd (amount ▸ large) (Nat.not_le.2 fits)
    | cut short marked => exact absurd (all _ short marked) (ends.not_marked (Nat.le_refl _))
    | tooLong _ marked => exact absurd marked (ends.not_marked (Nat.le_refl _))
    | tooLarge => rfl

end Ending

/-- The group that has to be the last: it ends the integer, and it has to fit. -/
theorem ending_lastGroup {start bits : Nat} (c : Cursor) (pos : 0 < bits) (narrow : bits < 8) :
    Ending bits id start c (groups start bits c) := by
  have single : (bits + 6) / 7 = 1 := by omega
  obtain ⟨offset, window⟩ := c
  unfold groups
  split
  · omega
  cases window with
  | nil => exact .cut (single ▸ Nat.zero_lt_one) (by simp)
  | cons b rest =>
    change Ending _ _ _ _ ((if b ≥ 128 then throw _ else if b.toNat >>> bits ≠ 0 then throw _
      else pure b.toNat : Reader Nat) ⟨offset + 1, rest⟩)
    have fits : b.toNat >>> bits = 0 ↔ b.toNat < 2 ^ bits := by
      rw [Nat.shiftRight_eq_div_pow, Nat.div_eq_zero_iff_lt (Nat.two_pow_pos bits)]
    split
    · next marked =>
      refine .tooLong (single ▸ Nat.le_add_left 1 _) ?_
      rw [single]
      exact List.forall_mem_singleton.2 marked
    next ended =>
    have ended := UInt8.not_le.1 ended
    split
    · next large =>
      refine .tooLarge (single ▸ .single rest ended) ?_
      rw [single, groupSum_single rest ended]
      rwa [ne_eq, fits, Nat.not_lt] at large
    · next small =>
      rw [ne_eq, Decidable.not_not, fits] at small
      exact .read (.single rest ended) (Nat.le_of_eq single.symm) (groupSum_single rest ended).symm
        small

/-- **The groups of an integer end as the window says.** -/
theorem ending_groups {start bits : Nat} (c : Cursor) (pos : 0 < bits) :
    Ending bits id start c (groups start bits c) := by
  -- induction on the width, which shrinks by seven from group to group
  induction bits using Nat.strongRecOn generalizing c with
  | ind bits ih =>
    rcases Nat.lt_or_ge bits 8 with narrow | wide
    · exact ending_lastGroup c pos narrow
    obtain ⟨bits, rfl⟩ := Nat.exists_eq_add_of_le' wide
    obtain ⟨offset, window⟩ := c
    unfold groups
    cases window with
    | nil => exact .cut (by rw [groups_succ]; exact Nat.succ_pos _) (by simp)
    | cons b rest =>
      change Ending _ _ _ _ ((if b < 128 then pure b.toNat else _ : Reader Nat) ⟨offset + 1, rest⟩)
      split
      · next ended =>
        have small : b.toNat < 2 ^ 7 := UInt8.lt_iff_toNat_lt.1 ended
        refine .read (.single rest ended) ?_ (groupSum_single rest ended).symm ?_
        · rw [groups_succ]
          exact Nat.le_add_left 1 _
        · exact Nat.lt_of_lt_of_le small (Nat.pow_le_pow_right (by decide) (by omega))
      · next more =>
        have marked := UInt8.not_lt.1 more
        have rest := (ih (bits + 1) (by omega) ⟨offset + 1, rest⟩ (Nat.succ_pos bits)).cons marked
        exact rest

end Leb128

/-! ## The readers -/

namespace Reader

/-- What is read may be changed without a change to how it is read. -/
theorem map_apply (r : Reader α) (f : α → β) (c : Cursor) :
    (r >>= fun a => pure (f a)) c = (r c).map fun p => (f p.1, p.2) := by
  change (r c >>= fun p => .ok (f p.1, p.2)) = _
  cases r c <;> rfl

theorem ending_u32 (c : Cursor) : Leb128.Ending 32 UInt32.toNat c.offset c (u32 c) := by
  rw [u32, map_apply]
  exact (Leb128.ending_groups c (by decide)).map fun n small => UInt32.toNat_ofNat_of_lt' small

theorem ending_u64 (c : Cursor) : Leb128.Ending 64 UInt64.toNat c.offset c (u64 c) := by
  rw [u64, map_apply]
  exact (Leb128.ending_groups c (by decide)).map fun n small => UInt64.toNat_ofNat_of_lt' small

end Reader

/-! ## The loop of a machine -/

namespace Checked

/-- Where the loop that reads an integer stands in front of a byte: how many bytes it may still
take, how far up the next group belongs, what the groups so far amount to, and the cursor. -/
structure Loop where
  left : Nat
  shift : Nat
  low : UInt64
  cursor : Cursor

/-- The seven bits of a byte that belong to the number. -/
def group (b : UInt8) : UInt64 := (b &&& 0x7f).toUInt64

namespace Loop

variable {start bits : Nat} {t t' : Loop} {b : UInt8} {c : Cursor}

/-- Where the loop starts. -/
def first (bits : Nat) (c : Cursor) : Loop := ⟨(bits + 6) / 7, 0, 0, c⟩

/-- What the loop does from here. -/
def run (start bits : Nat) (t : Loop) : Except Halt (UInt64 × Cursor) :=
  groups start bits t.left t.shift t.low t.cursor

/-- The next byte is `b`, which passes the check that is made of it. -/
def Passes (start bits : Nat) (t : Loop) (b : UInt8) (c : Cursor) : Prop :=
  t.left ≠ 0 ∧ ∃ c₁, byte t.cursor = .ok (b, c₁) ∧
    checkGroup start bits (t.left - 1) t.shift b c₁ = .ok ((), c)

/-- A turn of the loop: a byte that passes and asks for another. -/
inductive Next (start bits : Nat) (t : Loop) : Loop → Prop
  | turn {b : UInt8} {c : Cursor} (passes : t.Passes start bits b c) (more : b &&& 0x80 ≠ 0) :
      Next start bits t
        ⟨t.left - 1, t.shift + 7, t.low ||| group b <<< UInt64.ofNat t.shift, c⟩

/-- Where the loop comes by when an integer is read at a cursor. -/
def Reached (bits : Nat) (c : Cursor) (t : Loop) : Prop :=
  Relation.ReflTransGen (Next c.pos bits) (first bits c) t

/-- Nothing is lost in the next turn, whatever the byte. -/
structure Exact (start bits : Nat) (t : Loop) : Prop where
  /-- The loop may take another byte, so it does not run to its end. -/
  goesOn : t.left ≠ 0
  inWord : t.shift < 64
  /-- No bit is shifted out of the word. -/
  shifted : ∀ b c, t.Passes start bits b c →
    (group b <<< UInt64.ofNat t.shift).toNat = 2 ^ t.shift * (group b).toNat
  /-- No bit is set twice. -/
  added : ∀ b c, t.Passes start bits b c →
    (t.low ||| group b <<< UInt64.ofNat t.shift).toNat =
      t.low.toNat + 2 ^ t.shift * (group b).toNat

/-- There is room for another group, and for as many bytes as the rest of the width has groups; the
groups so far fill no more than has been passed. -/
structure Fits (bits : Nat) (t : Loop) : Prop where
  pending : t.shift < bits
  room : t.left = (bits - t.shift + 6) / 7
  below : t.low.toNat < 2 ^ t.shift

/-- The last byte that an integer may have passes only if it ends it and fits into what is left of
the width. -/
theorem last_of_checkGroup {shift : Nat} {c₁ : Cursor} (pending : shift < bits)
    (narrow : bits - shift < 8) (passed : checkGroup start bits 0 shift b c₁ = .ok ((), c)) :
    b &&& 0x80 = 0 ∧ (group b).toNat < 2 ^ (bits - shift) := by
  by_cases ended : b < 128
  · have small : b.toNat < 128 := UInt8.lt_iff_toNat_lt.1 ended
    refine ⟨(Simulates.topBit_eq_zero_iff b).2 ended, ?_⟩
    rw [Simulates.checkGroup_last start (Nat.add_sub_of_le (Nat.le_of_lt pending)) narrow ended]
      at passed
    split at passed
    · cases passed
    · next fits =>
      rw [ne_eq, Decidable.not_not, Nat.shiftRight_eq_div_pow,
        Nat.div_eq_zero_iff_lt (Nat.two_pow_pos _)] at fits
      rwa [group, Simulates.toNat_lowBits, Nat.mod_eq_of_lt small]
  · unfold checkGroup at passed
    rw [if_neg (Decidable.not_not.2 rfl), if_pos (mt (Simulates.topBit_eq_zero_iff b).1 ended)]
      at passed
    cases passed

/-- A byte that passes has a group that fits behind those before it. -/
theorem Fits.group_lt (h : t.Fits bits) (passes : t.Passes start bits b c) :
    ∃ width, 0 < width ∧ t.shift + width ≤ bits ∧ (group b).toNat < 2 ^ width := by
  obtain ⟨some, c₁, _, checked⟩ := passes
  have pending := h.pending
  have room := h.room
  by_cases last : t.left = 1
  · rw [last] at checked
    have fits := (last_of_checkGroup pending (by omega) checked).2
    exact ⟨bits - t.shift, by omega, by omega, fits⟩
  · refine ⟨7, by decide, by omega, ?_⟩
    rw [group, Simulates.toNat_lowBits]
    exact Nat.mod_lt _ (by decide)

/-- The loop starts with all of the width in front of it. -/
theorem fits_first (some : 0 < bits) (c : Cursor) : (first bits c).Fits bits :=
  ⟨some, rfl, Nat.two_pow_pos 0⟩

theorem Fits.exact (h : t.Fits bits) (small : bits ≤ 64) : t.Exact start bits where
  goesOn := by
    have pending := h.pending
    have room := h.room
    omega
  inWord := Nat.lt_of_lt_of_le h.pending small
  shifted b c passes := by
    obtain ⟨width, some, fits, narrow⟩ := h.group_lt passes
    have none : (0 : UInt64).toNat < 2 ^ t.shift := Nat.two_pow_pos t.shift
    have sum := Simulates.toNat_or_shifted none narrow some (Nat.le_trans fits small)
    rwa [UInt64.zero_or, UInt64.toNat_zero, Nat.zero_add] at sum
  added b c passes := by
    obtain ⟨width, some, fits, narrow⟩ := h.group_lt passes
    exact Simulates.toNat_or_shifted h.below narrow some (Nat.le_trans fits small)

/-- A turn keeps the invariant: the byte was not the last that the loop may take, for then it would
not have passed. -/
theorem Fits.next (h : t.Fits bits) (small : bits ≤ 64) (turn : t.Next start bits t') :
    t'.Fits bits := by
  cases turn with
  | @turn b c passes more =>
  have pending := h.pending
  have room := h.room
  have several : t.left ≠ 1 := by
    intro last
    obtain ⟨_, c₁, _, checked⟩ := passes
    rw [last] at checked
    exact more (last_of_checkGroup pending (by omega) checked).1
  have narrow : (group b).toNat < 128 := by
    rw [group, Simulates.toNat_lowBits]
    exact Nat.mod_lt _ (by decide)
  refine ⟨by dsimp only; omega, by dsimp only; omega, ?_⟩
  have low := h.below
  have most := Nat.mul_le_mul_left (2 ^ t.shift) (Nat.le_of_lt_succ narrow)
  have width : 2 ^ (t.shift + 7) = 2 ^ t.shift * 128 := Nat.pow_add 2 t.shift 7
  dsimp only
  rw [(h.exact small).added b c passes, width]
  omega

/-- A turn changes nothing about what the loop does in the end. -/
theorem run_next (inWord : t.shift < 64) (turn : t.Next start bits t') :
    t.run start bits = t'.run start bits := by
  cases turn with
  | @turn b c passes more =>
  obtain ⟨left, shift, low, cursor⟩ := t
  obtain ⟨some, c₁, read, checked⟩ := passes
  cases left with
  | zero => exact absurd rfl some
  | succ left =>
    change (byte cursor >>= fun p => (checkGroup start bits left shift p.1 >>= fun _ =>
      lift (shiftLeft (group p.1) shift) >>= fun high => if p.1 &&& 0x80 = 0 then
        pure (low ||| high) else groups start bits left (shift + 7) (low ||| high)) p.2) = _
    have checked : checkGroup start bits left shift b c₁ = .ok ((), c) := checked
    have shifted : shiftLeft (group b) shift = .ok (group b <<< UInt64.ofNat shift) :=
      if_pos inWord
    rw [read]
    change (checkGroup start bits left shift b c₁ >>= fun p => (lift (shiftLeft (group b) shift) >>=
      fun high => if b &&& 0x80 = 0 then _ else _ : Reader UInt64) p.2) = _
    rw [checked, shifted]
    change (if b &&& 0x80 = 0 then _ else _ : Reader UInt64) c = _
    rw [if_neg more]
    rfl

/-- **Wherever the loop comes by, it keeps its invariant,** and does there what it was to do from
the start. -/
theorem fits_of_reached (some : 0 < bits) (small : bits ≤ 64) (h : Reached bits c t) :
    t.Fits bits ∧ t.run c.pos bits = integer bits c := by
  -- induction on the turns
  induction h with
  | refl => exact ⟨fits_first some c, rfl⟩
  | tail _ turn ih =>
    obtain ⟨fits, same⟩ := ih
    have inWord := Nat.lt_of_lt_of_le fits.pending small
    exact ⟨fits.next small turn, (run_next inWord turn).symm.trans same⟩

end Loop

end Checked

/-- **Integers are read exactly if they are bounded,** and every other window has the error that it
deserves. A machine reads the same, and on its way loses no bits and never runs out of turns. -/
theorem integers_read_as_bounded :
    (∀ c result, Reader.u32 c = result ↔ Leb128.Ending 32 UInt32.toNat c.offset c result) ∧
    (∀ c result, Reader.u64 c = result ↔ Leb128.Ending 64 UInt64.toNat c.offset c result) ∧
    Checked.Simulates Eq Checked.u32 Reader.u32 ∧ Checked.Simulates Eq Checked.u64 Reader.u64 ∧
    ∀ bits, 0 < bits → bits ≤ 64 → ∀ c t, Checked.Loop.Reached bits c t →
      t.run c.pos bits = Checked.integer bits c ∧ t.Exact c.pos bits := by
  refine ⟨fun c result => ⟨?_, ?_⟩, fun c result => ⟨?_, ?_⟩, .u32, .u64, ?_⟩
  · exact fun run => run ▸ Reader.ending_u32 c
  · exact (Reader.ending_u32 c).unique fun _ _ => UInt32.toNat_inj.1
  · exact fun run => run ▸ Reader.ending_u64 c
  · exact (Reader.ending_u64 c).unique fun _ _ => UInt64.toNat_inj.1
  · intro bits some small c t reached
    obtain ⟨fits, same⟩ := Checked.Loop.fits_of_reached some small reached
    exact ⟨same, fits.exact small⟩

/-- Five is read from three bytes behind other ones, the same bits are too large if they reach
beyond the width, and the loop over the three bytes comes by a third byte, which belongs 14 bits
up. -/
theorem integers_read_as_bounded_padded :
    Reader.u32 ⟨2, [0x85, 0x80, 0x00, 0xff]⟩ = .ok (5, ⟨5, [0xff]⟩) ∧
    Reader.u32 ⟨0, [0x85, 0x80, 0x80, 0x80, 0x10]⟩ = .error (.integerTooLarge 0) ∧
    ∃ t, Checked.Loop.Reached 32 ⟨[0x07, 0x07, 0x85, 0x80, 0x00, 0xff], 2, 6⟩ t ∧
      t.shift = 14 ∧ t.Exact 2 32 := by
  obtain ⟨narrow, _, _, _, loop⟩ := integers_read_as_bounded
  refine ⟨(narrow _ _).2 ?_, (narrow _ _).2 ?_, ?_⟩
  · have marked : ∀ b ∈ ([0x85, 0x80] : Bytes), 128 ≤ b := by decide +kernel
    have ends : Leb128.EndsAt (⟨2, [0x85, 0x80, 0x00, 0xff]⟩ : Cursor).window 3 :=
      ⟨by decide, by decide, marked, ⟨0x00, rfl, by decide⟩⟩
    exact .read ends (by decide) rfl (by decide)
  · have marked : ∀ b ∈ ([0x85, 0x80, 0x80, 0x80] : Bytes), 128 ≤ b := by decide +kernel
    have large : 2 ^ 32 ≤ Leb128.groupSum [0x85, 0x80, 0x80, 0x80, 0x10] := by decide +kernel
    exact .tooLarge ⟨by decide, by decide, marked, ⟨0x10, rfl, by decide⟩⟩ large
  · have reached : Checked.Loop.Reached 32 ⟨[0x07, 0x07, 0x85, 0x80, 0x00, 0xff], 2, 6⟩
        ⟨3, 14, 5, ⟨[0x07, 0x07, 0x85, 0x80, 0x00, 0xff], 4, 6⟩⟩ :=
      .tail (.single (.turn (b := 0x85) ⟨by decide, _, rfl, rfl⟩ (by decide)))
        (.turn (b := 0x80) ⟨by decide, _, rfl, rfl⟩ (by decide))
    exact ⟨_, reached, rfl, (loop 32 (by decide) (by decide) _ _ reached).2⟩

end WasmBindings
