import WasmBindings.Proofs.Binary.Checked
import WasmBindings.Proofs.Binary.Draft

/-!
# Positions and windows

A cursor in bounds has a window, the bytes between its positions (`Cursor.view`). A reader that
works by positions simulates one that works on windows: from a cursor in bounds it never leaves the
domain of an operation, it ends as the other one does on the window, and the cursor it leaves is in
bounds again and stands further on between the same ends (`Simulates`). One lemma for each way to
put readers together carries this from single bytes up to integers, and from there to whole modules.

The readers differ in one place only. Integers are put together by shifts here, from the lowest
group up, and from the highest group down there; `Simulates.groups` keeps track of what the groups
read so far amount to.
-/

namespace WasmBindings.Checked

namespace Cursor

/-- The window between the positions. -/
def view (c : Cursor) : WasmBindings.Cursor := ⟨c.pos, (c.buffer.take c.stop).drop c.pos⟩

/-- A cursor further on in the same part of the same buffer. -/
structure Reaches (c c' : Cursor) : Prop where
  buffer : c'.buffer = c.buffer
  stop : c'.stop = c.stop
  forward : c.pos ≤ c'.pos
  inside : c'.pos ≤ c'.stop

theorem InBounds.of_reaches {c c' : Cursor} (h : c.InBounds) (on : c.Reaches c') :
    c'.InBounds := by
  refine ⟨on.inside, ?_⟩
  rw [on.stop, on.buffer]
  exact h.2

theorem Reaches.refl {c : Cursor} (h : c.InBounds) : c.Reaches c :=
  ⟨rfl, rfl, Nat.le_refl _, h.1⟩

theorem Reaches.trans {c c₁ c₂ : Cursor} (first : c.Reaches c₁) (second : c₁.Reaches c₂) :
    c.Reaches c₂ :=
  ⟨second.buffer.trans first.buffer, second.stop.trans first.stop,
    Nat.le_trans first.forward second.forward, second.inside⟩

/-! ## Cursors in bounds -/

variable {c : Cursor}

theorem InBounds.remaining_view (h : c.InBounds) : c.view.remaining = c.stop - c.pos := by
  unfold view WasmBindings.Cursor.remaining
  rw [List.length_drop, List.length_take, Nat.min_eq_left h.2]

theorem InBounds.remaining_eq (h : c.InBounds) : c.remaining = .ok c.view.remaining := by
  unfold remaining difference
  rw [if_pos h.1, h.remaining_view]

theorem InBounds.isAtEnd_iff (h : c.InBounds) : c.isAtEnd = true ↔ c.view.remaining = 0 := by
  have order := h.1
  rw [h.remaining_view, isAtEnd, decide_eq_true_iff]
  omega

theorem InBounds.tooShort_eq (h : c.InBounds) {count : Nat} (short : c.view.remaining < count) :
    c.tooShort count = (.error (.fault (c.view.tooShort count)) : Except Halt α) := by
  unfold tooShort
  rw [h.remaining_eq]
  change (difference count c.view.remaining >>= _) = _
  rw [difference, if_pos (Nat.le_of_lt short)]
  rfl

theorem InBounds.enough_iff (h : c.InBounds) {count : Nat} :
    count ≤ c.view.remaining ↔ c.pos + count ≤ c.stop := by
  have order := h.1
  rw [h.remaining_view]
  omega

theorem view_advance (c : Cursor) (count : Nat) :
    view { c with pos := c.pos + count } = c.view.advance count := by
  unfold view WasmBindings.Cursor.advance
  rw [List.drop_drop]

/-- The first bytes of a window are a window of their own. -/
theorem InBounds.view_bounded (h : c.InBounds) {count : Nat} (enough : count ≤ c.view.remaining) :
    view { c with stop := c.pos + count } = c.view.bounded count := by
  rw [h.remaining_view] at enough
  unfold view WasmBindings.Cursor.bounded
  rw [List.drop_take, List.drop_take, List.take_take, Nat.add_sub_cancel_left,
    Nat.min_eq_left enough]

theorem InBounds.reaches_advance (h : c.InBounds) {count : Nat}
    (enough : count ≤ c.view.remaining) : c.Reaches { c with pos := c.pos + count } :=
  ⟨rfl, rfl, Nat.le_add_right _ _, h.enough_iff.1 enough⟩

theorem InBounds.advance_eq (h : c.InBounds) {count : Nat} (enough : count ≤ c.view.remaining) :
    c.advance count = .ok { c with pos := c.pos + count } := by
  unfold advance make
  exact if_pos (h.of_reaches (h.reaches_advance enough))

theorem InBounds.slice_eq (h : c.InBounds) {count : Nat} (enough : count ≤ c.view.remaining) :
    slice c.buffer c.pos (c.pos + count) = .ok (c.view.window.take count) := by
  have inside := (h.of_reaches (h.reaches_advance enough)).1
  unfold slice
  rw [if_pos ⟨Nat.le_add_right _ _, Nat.le_trans inside h.2⟩]
  exact congrArg (fun v => Except.ok v.window) (h.view_bounded enough)

/-- The first byte of a window is the byte of the buffer at the position. -/
theorem InBounds.byteAt_eq (h : c.InBounds) {b : UInt8} {rest : Bytes}
    (window : c.view.window = b :: rest) : byteAt c.buffer c.pos = .ok b := by
  have enough : 1 ≤ c.view.remaining := by
    rw [WasmBindings.Cursor.remaining, window, List.length_cons]
    exact Nat.le_add_left _ _
  have order : c.pos < c.stop := h.enough_iff.1 enough
  have first : c.view.window[0]? = some b := by rw [window]; rfl
  unfold view at first
  rw [List.getElem?_drop, Nat.add_zero, List.getElem?_take_of_lt order] at first
  unfold byteAt
  rw [first]

theorem InBounds.inBounds_bounded (h : c.InBounds) {count : Nat}
    (enough : count ≤ c.view.remaining) : InBounds { c with stop := c.pos + count } :=
  ⟨Nat.le_add_right _ _, Nat.le_trans (h.of_reaches (h.reaches_advance enough)).1 h.2⟩

theorem inBounds_whole (buffer : Bytes) : (whole buffer).InBounds :=
  ⟨Nat.zero_le _, Nat.le_refl _⟩

theorem view_whole (buffer : Bytes) : (whole buffer).view = .start buffer := by
  unfold view whole
  rw [List.take_length]
  rfl

end Cursor

/-- A part of known size is read if there are enough bytes and it can be made. -/
theorem sized_eq {c : Cursor} (h : c.InBounds) {count : Nat} (enough : count ≤ c.view.remaining)
    {part : Cursor → Except Halt α} {a : α} (made : part c = .ok a) :
    sized count part c = .ok (a, { c with pos := c.pos + count }) := by
  unfold sized
  rw [h.remaining_eq]
  change (if c.view.remaining < count then _ else _) = _
  rw [if_neg (Nat.not_lt.2 enough), made]
  change (c.advance count >>= _) = _
  rw [h.advance_eq enough]
  rfl

/-- Without enough bytes a part of known size is reported missing. -/
theorem sized_of_short {c : Cursor} (h : c.InBounds) {count : Nat}
    (short : c.view.remaining < count) (part : Cursor → Except Halt α) :
    sized count part c = .error (.fault (c.view.tooShort count)) := by
  unfold sized
  rw [h.remaining_eq]
  change (if c.view.remaining < count then _ else _) = _
  rw [if_pos short, h.tooShort_eq short]

/-- In bounds, asking how much is left gives an answer and changes nothing. -/
theorem remaining_run {c : Cursor} (h : c.InBounds) : remaining c = .ok (c.view.remaining, c) := by
  unfold remaining
  rw [h.remaining_eq]
  rfl

/-! ## Simulation -/

/-- The first reader does from any cursor in bounds what the second does on its window; what they
give is related by `R`. -/
def Simulates (R : α → β → Prop) (x : Reader α) (r : WasmBindings.Reader β) : Prop :=
  ∀ c, c.InBounds →
    (∃ a b c', c.Reaches c' ∧ R a b ∧ x c = .ok (a, c') ∧ r c.view = .ok (b, c'.view)) ∨
    ∃ e, x c = .error (.fault e) ∧ r c.view = .error e

namespace Simulates

variable {α α' β β' : Type} {R : α → β → Prop}

protected theorem pure {a : α} {b : β} (same : R a b) : Simulates R (pure a) (pure b) :=
  fun _ h => .inl ⟨a, b, _, .refl h, same, rfl, rfl⟩

protected theorem fault (e : FormatError) : Simulates R (fault e) (throw e) :=
  fun _ _ => .inr ⟨e, rfl, rfl⟩

/-- In a sequence, the second parts have to agree on whatever the first ones give. -/
protected theorem bind {Q : α' → β' → Prop} {x : Reader α} {r : WasmBindings.Reader β}
    {f : α → Reader α'} {g : β → WasmBindings.Reader β'} (first : Simulates R x r)
    (second : ∀ a b, R a b → Simulates Q (f a) (g b)) : Simulates Q (x >>= f) (r >>= g) := by
  intro c h
  change (∃ a b c', _ ∧ _ ∧ (x c >>= fun p => f p.1 p.2) = _ ∧
    (r c.view >>= fun p => g p.1 p.2) = _) ∨ _
  change _ ∨ ∃ e, (x c >>= fun p => f p.1 p.2) = _ ∧ (r c.view >>= fun p => g p.1 p.2) = _
  rcases first c h with ⟨a, b, c₁, on, same, hx, hr⟩ | ⟨e, hx, hr⟩
  · rw [hx, hr]
    rcases second a b same c₁ (h.of_reaches on) with ⟨a', b', c₂, on', same', hf, hg⟩ | failed
    · exact .inl ⟨a', b', c₂, on.trans on', same', hf, hg⟩
    · exact .inr failed
  · rw [hx, hr]
    exact .inr ⟨e, rfl, rfl⟩

/-- The same, for readers that give the same. -/
theorem next {Q : α' → β' → Prop} {x : Reader α} {r : WasmBindings.Reader α} {f : α → Reader α'}
    {g : α → WasmBindings.Reader β'} (first : Simulates Eq x r)
    (second : ∀ a, Simulates Q (f a) (g a)) : Simulates Q (x >>= f) (r >>= g) :=
  first.bind fun a _ same => same ▸ second a

protected theorem map {x : Reader α} {r : WasmBindings.Reader α} (h : Simulates Eq x r)
    (f : α → α') : Simulates Eq (x >>= fun a => pure (f a)) (r >>= fun a => pure (f a)) :=
  h.next fun _ => Simulates.pure rfl

/-- What the readers give may be related more loosely. -/
theorem mono {Q : α → β → Prop} {x : Reader α} {r : WasmBindings.Reader β}
    (h : Simulates R x r) (looser : ∀ a b, R a b → Q a b) : Simulates Q x r := by
  intro c within
  rcases h c within with ⟨a, b, c', on, same, hx, hr⟩ | failed
  · exact .inl ⟨a, b, c', on, looser a b same, hx, hr⟩
  · exact .inr failed

/-- What the second reader gives may be changed if the relation allows for it. -/
theorem adjust {Q : α → β' → Prop} {x : Reader α} {r : WasmBindings.Reader β}
    (h : Simulates R x r) {f : β → β'} (same : ∀ a b, R a b → Q a (f b)) :
    Simulates Q x (r >>= fun b => pure (f b)) := by
  have both := h.bind (f := pure) fun a b related => Simulates.pure (same a b related)
  rwa [bind_pure] at both

protected theorem ite {x y : Reader α} {r s : WasmBindings.Reader β} {p : Prop} [Decidable p]
    (yes : Simulates R x r) (no : Simulates R y s) :
    Simulates R (if p then x else y) (if p then r else s) := by
  split <;> assumption

protected theorem offset : Simulates Eq offset Reader.offset :=
  fun c h => .inl ⟨c.pos, c.pos, c, .refl h, rfl, rfl, rfl⟩

/-- A part of known size. -/
protected theorem sized {part : Cursor → Except Halt α} {part' : WasmBindings.Cursor → β}
    {r : WasmBindings.Reader β} {count : Nat}
    (run : ∀ v, r v = if count ≤ v.remaining then .ok (part' v, v.advance count)
      else .error (v.tooShort count))
    (same : ∀ c : Cursor, c.InBounds → count ≤ c.view.remaining →
      ∃ a, part c = .ok a ∧ R a (part' c.view)) :
    Simulates R (sized count part) r := by
  intro c h
  rw [run]
  by_cases enough : count ≤ c.view.remaining
  · obtain ⟨a, made, related⟩ := same c h enough
    rw [if_pos enough, sized_eq h enough made, ← c.view_advance]
    exact .inl ⟨a, _, _, h.reaches_advance enough, related, rfl, rfl⟩
  · rw [if_neg enough, sized_of_short h (Nat.lt_of_not_le enough)]
    exact .inr ⟨_, rfl, rfl⟩

theorem bytes_length (count : Nat) :
    Simulates (fun raw raw' => raw = raw' ∧ raw.length = count) (bytes count)
      (Reader.bytes count) :=
  .sized (fun _ => rfl) fun _ h enough =>
    ⟨_, h.slice_eq enough, rfl, List.length_take_of_le enough⟩

protected theorem bytes (count : Nat) : Simulates Eq (bytes count) (Reader.bytes count) :=
  (bytes_length count).mono fun _ _ given => given.1

/-- The part that is split off is in bounds, and its window is cut off the window. -/
protected theorem split (count : Nat) :
    Simulates (fun part v => part.InBounds ∧ part.view = v ∧ part.stop - part.pos = count)
      (split count) (Reader.window count) := by
  refine .sized (fun _ => rfl) fun c h enough => ?_
  have part := h.inBounds_bounded enough
  exact ⟨_, if_pos part, part, h.view_bounded enough, Nat.add_sub_cancel_left _ _⟩

protected theorem byte : Simulates Eq byte Reader.byte := by
  intro c h
  unfold byte Reader.byte
  cases window : c.view.window with
  | nil =>
    have none : c.view.remaining = 0 := by rw [WasmBindings.Cursor.remaining, window]; rfl
    rw [if_pos (h.isAtEnd_iff.2 none), h.tooShort_eq (none ▸ Nat.zero_lt_one)]
    exact .inr ⟨_, rfl, rfl⟩
  | cons b rest =>
    have enough : 1 ≤ c.view.remaining := by
      rw [WasmBindings.Cursor.remaining, window, List.length_cons]
      exact Nat.le_add_left _ _
    have more : ¬ c.isAtEnd = true := fun done => by
      rw [h.isAtEnd_iff.1 done] at enough
      exact absurd enough (by decide)
    rw [if_neg more, h.byteAt_eq window]
    refine .inl ⟨b, b, { c with pos := c.pos + 1 }, h.reaches_advance enough, rfl, ?_, ?_⟩
    · change (c.advance 1 >>= _) = _
      rw [h.advance_eq enough]
      rfl
    · rw [c.view_advance, WasmBindings.Cursor.advance, window]
      rfl

protected theorem skipRest : Simulates Eq skipRest Reader.skipRest := by
  intro c h
  have all : c.view.remaining ≤ c.view.remaining := Nat.le_refl _
  have passed : skipRest c = .ok ((), { c with pos := c.pos + c.view.remaining }) := by
    change (remaining c >>= fun p => (bytes p.1 >>= fun _ => pure ()) p.2) = _
    rw [remaining_run h]
    change (bytes c.view.remaining c >>= _) = _
    rw [bytes, sized_eq h all (h.slice_eq all)]
    rfl
  refine .inl ⟨(), (), _, h.reaches_advance all, rfl, passed, ?_⟩
  rw [c.view_advance]
  rfl

/-! ## Integers -/

/-- A byte has its top bit set exactly if it is 128 or more. -/
theorem topBit_eq_zero_iff (b : UInt8) : b &&& 0x80 = 0 ↔ b < 128 := by
  have all : ∀ n : Fin 256, UInt8.ofNat n &&& 0x80 = 0 ↔ UInt8.ofNat n < 128 := by decide +kernel
  simpa using all ⟨b.toNat, b.toNat_lt⟩

theorem toNat_lowBits (b : UInt8) : (b &&& 0x7f).toUInt64.toNat = b.toNat % 128 := by
  rw [UInt8.toNat_toUInt64, UInt8.toNat_and]
  exact Nat.and_two_pow_sub_one_eq_mod b.toNat 7

/-- A group that is shifted above a number is added to it, as long as it fits 64 bits there. -/
theorem toNat_or_shifted {low group : UInt64} {shift width : Nat} (below : low.toNat < 2 ^ shift)
    (narrow : group.toNat < 2 ^ width) (some : 0 < width) (fits : shift + width ≤ 64) :
    (low ||| group <<< UInt64.ofNat shift).toNat = low.toNat + 2 ^ shift * group.toNat := by
  have amount : (UInt64.ofNat shift).toNat = shift :=
    UInt64.toNat_ofNat_of_lt' (show shift < 2 ^ 64 by omega)
  have whole : 2 ^ shift * group.toNat < 2 ^ 64 :=
    calc 2 ^ shift * group.toNat
      _ < 2 ^ shift * 2 ^ width := Nat.mul_lt_mul_of_pos_left narrow (Nat.two_pow_pos shift)
      _ = 2 ^ (shift + width) := (Nat.pow_add 2 shift width).symm
      _ ≤ 2 ^ 64 := Nat.pow_le_pow_right (by decide) fits
  rw [UInt64.toNat_or, UInt64.toNat_shiftLeft, amount, Nat.mod_eq_of_lt (show shift < 64 by omega),
    Nat.shiftLeft_eq, Nat.mul_comm, Nat.mod_eq_of_lt whole, Nat.or_comm,
    ← Nat.two_pow_add_eq_or_of_lt below, Nat.add_comm]

/-- The last byte that an integer may have has to end it and to fit. -/
theorem checkGroup_last (start : Nat) {bits shift rest : Nat} {b : UInt8}
    (width : shift + rest = bits) (narrow : rest < 8) (ended : b < 128) :
    checkGroup start bits 0 shift b =
      if b.toNat >>> rest ≠ 0 then fault (.integerTooLarge start) else pure () := by
  have small : b.toNat < 128 := UInt8.lt_iff_toNat_lt.1 ended
  have allowed : difference bits shift = .ok rest := by
    unfold difference
    rw [if_pos (by omega), ← width, Nat.add_sub_cancel_left]
  unfold checkGroup
  rw [if_neg (Decidable.not_not.2 rfl),
    if_neg (Decidable.not_not.2 ((topBit_eq_zero_iff b).2 ended)), allowed]
  change (if rest < 7 then _ else _) = _
  by_cases cut : rest < 7
  · -- some bits of the group lie beyond the width
    have amount : (UInt64.ofNat rest).toNat = rest :=
      UInt64.toNat_ofNat_of_lt' (show rest < 2 ^ 64 by omega)
    have unused : (b &&& 0x7f).toUInt64 >>> UInt64.ofNat rest = 0 ↔ b.toNat >>> rest = 0 := by
      rw [← UInt64.toNat_inj, UInt64.toNat_shiftRight, toNat_lowBits, Nat.mod_eq_of_lt small,
        amount, Nat.mod_eq_of_lt (show rest < 64 by omega)]
      rfl
    have shifted : shiftRight (b &&& 0x7f).toUInt64 rest =
        .ok ((b &&& 0x7f).toUInt64 >>> UInt64.ofNat rest) := if_pos (by omega)
    rw [if_pos cut, shifted]
    change (if (b &&& 0x7f).toUInt64 >>> UInt64.ofNat rest ≠ 0 then _ else _) = _
    simp only [ne_eq, unused]
  · -- all seven bits fit
    obtain rfl : rest = 7 := by omega
    have none : b.toNat >>> 7 = 0 := by
      rw [Nat.shiftRight_eq_div_pow]
      exact Nat.div_eq_of_lt small
    rw [if_neg cut, if_neg (Decidable.not_not.2 none)]

/-- The number read, if the groups so far amount to `low` in `shift` bits and those still to come
amount to `high`. -/
def Amounts (shift : Nat) (low n : UInt64) (high : Nat) : Prop :=
  n.toNat = low.toNat + 2 ^ shift * high

/-- A group that may have another behind it. -/
theorem moreGroups (start : Nat) {bits left shift : Nat} {low : UInt64}
    {r : WasmBindings.Reader Nat} (more : left ≠ 0) (fits : shift + 7 ≤ 64)
    (below : low.toNat < 2 ^ shift)
    (h : ∀ low' : UInt64, low'.toNat < 2 ^ (shift + 7) →
      Simulates (Amounts (shift + 7) low') (groups start bits left (shift + 7) low') r) :
    Simulates (Amounts shift low) (groups start bits (left + 1) shift low)
      (Reader.byte >>= fun b => if b < 128 then pure b.toNat
        else r >>= fun high => pure (b.toNat % 128 + 128 * high)) := by
  refine Simulates.byte.next fun b => ?_
  have unchecked : checkGroup start bits left shift b = pure () := if_pos more
  have shifted : shiftLeft (b &&& 0x7f).toUInt64 shift =
      .ok ((b &&& 0x7f).toUInt64 <<< UInt64.ofNat shift) := if_pos (by omega)
  have group : (b &&& 0x7f).toUInt64.toNat < 2 ^ 7 := by
    rw [toNat_lowBits]
    exact Nat.mod_lt _ (by decide)
  have sum := toNat_or_shifted below group (by decide) fits
  rw [toNat_lowBits] at group sum
  rw [unchecked, shifted]
  change Simulates _ (if b &&& 0x80 = 0 then pure _ else groups start bits left (shift + 7) _) _
  by_cases ended : b < 128
  · have small : b.toNat < 128 := UInt8.lt_iff_toNat_lt.1 ended
    rw [if_pos ((topBit_eq_zero_iff b).2 ended), if_pos ended]
    refine Simulates.pure ?_
    rw [Amounts, sum, Nat.mod_eq_of_lt small]
  · rw [if_neg (mt (topBit_eq_zero_iff b).1 ended), if_neg ended]
    have width : 2 ^ (shift + 7) = 2 ^ shift * 128 := Nat.pow_add 2 shift 7
    refine (h _ ?_).adjust fun n high amount => ?_
    · have most := Nat.mul_le_mul_left (2 ^ shift) (Nat.le_of_lt_succ group)
      rw [sum, width]
      omega
    · rw [Amounts] at amount ⊢
      rw [amount, sum, width, Nat.mul_add, Nat.mul_assoc, Nat.add_assoc]

/-- The last group that an integer may have. -/
theorem lastGroup (start : Nat) {bits shift rest : Nat} {low : UInt64}
    (width : shift + rest = bits) (small : bits ≤ 64) (some : 0 < rest) (narrow : rest < 8)
    (below : low.toNat < 2 ^ shift) :
    Simulates (Amounts shift low) (groups start bits 1 shift low)
      (Reader.byte >>= fun b => if b ≥ 128 then throw (.integerTooLong start)
        else if b.toNat >>> rest ≠ 0 then throw (.integerTooLarge start) else pure b.toNat) := by
  refine Simulates.byte.next fun b => ?_
  by_cases ended : b < 128
  · rw [checkGroup_last start width narrow ended, if_neg (UInt8.not_le.2 ended)]
    by_cases large : b.toNat >>> rest ≠ 0
    · rw [if_pos large, if_pos large]
      exact Simulates.fault (.integerTooLarge start)
    · have shifted : shiftLeft (b &&& 0x7f).toUInt64 shift =
          .ok ((b &&& 0x7f).toUInt64 <<< UInt64.ofNat shift) := if_pos (by omega)
      have group : (b &&& 0x7f).toUInt64.toNat = b.toNat := by
        rw [toNat_lowBits]
        exact Nat.mod_eq_of_lt (UInt8.lt_iff_toNat_lt.1 ended)
      have fits : b.toNat < 2 ^ rest := by
        rwa [ne_eq, Decidable.not_not, Nat.shiftRight_eq_div_pow,
          Nat.div_eq_zero_iff_lt (Nat.two_pow_pos rest)] at large
      have sum := toNat_or_shifted below (group.symm ▸ fits) some (by omega)
      rw [group] at sum
      rw [if_neg large, if_neg large, shifted]
      change Simulates _ (if b &&& 0x80 = 0 then pure _ else _) _
      rw [if_pos ((topBit_eq_zero_iff b).2 ended)]
      exact Simulates.pure sum
  · have refused : checkGroup start bits 0 shift b = fault (.integerTooLong start) := by
      unfold checkGroup
      rw [if_neg (Decidable.not_not.2 rfl), if_pos (mt (topBit_eq_zero_iff b).1 ended)]
    rw [refused, if_pos (UInt8.not_lt.1 ended)]
    exact Simulates.fault (.integerTooLong start)

/-- There are as many groups still to come as the rest of the width has room for. -/
protected theorem groups (start : Nat) {bits left shift rest : Nat} {low : UInt64}
    (width : shift + rest = bits) (small : bits ≤ 64) (some : 0 < rest)
    (room : left = (rest + 6) / 7) (below : low.toNat < 2 ^ shift) :
    Simulates (Amounts shift low) (groups start bits left shift low)
      (Leb128.groups start rest) := by
  -- induction on the number of groups that may follow
  induction left generalizing shift rest low with
  | zero => omega
  | succ left ih =>
    unfold Leb128.groups
    split
    · next rest =>
      exact moreGroups start (by omega) (by omega) below fun low' below' =>
        @ih (shift + 7) (rest + 1) low' (by omega) (by omega) (by omega) below'
    · next wide =>
      have narrow : rest < 8 := Nat.lt_of_not_le fun more =>
        wide (rest - 8) (Nat.sub_add_cancel more).symm
      obtain rfl : left = 0 := by omega
      exact lastGroup start width small some narrow below

protected theorem integer {bits : Nat} (some : 0 < bits) (small : bits ≤ 64) :
    Simulates (fun n m => n.toNat = m) (integer bits) (Leb128.read bits) := by
  refine Simulates.offset.next fun start => ?_
  refine (Simulates.groups start (Nat.zero_add bits) small some rfl ?_).mono fun n m amount => ?_
  · exact Nat.two_pow_pos 0
  · rw [Amounts, UInt64.toNat_zero, Nat.zero_add, Nat.pow_zero, Nat.one_mul] at amount
    exact amount

protected theorem u32 : Simulates Eq u32 Reader.u32 :=
  (Simulates.integer (by decide) (by decide)).bind fun _ _ same =>
    Simulates.pure (same ▸ rfl)

protected theorem u64 : Simulates Eq u64 Reader.u64 :=
  (Simulates.integer (by decide) (by decide)).adjust fun _ _ same =>
    same ▸ (UInt64.ofNat_toNat).symm

end Simulates

end WasmBindings.Checked
