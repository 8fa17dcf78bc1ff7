import WasmBindings.Proofs.Binary.Integer
import WasmBindings.Proofs.Outcome

/-!
# What is at fault in a window

An error that names an offset means the bytes there. `FormatError.FaultAt` says, for each kind of
error, what has to stand at the offset for the error to be deserved, and `FormatError.FaultIn` that
there is such a place in a window. A reader blames rightly (`Reader.Blames`) if all of its errors
are deserved in the window that it was given. Blame is put together as readers are: what the second
part of a sequence finds at fault stands behind what the first part took.

Whether an integer is too long or too large depends on how many bits it may have, so a reader also
says at which places an integer is due, and of which width (`IntegerSites`). The other kinds of
error can be judged by the bytes alone.
-/

namespace WasmBindings

/-- Where a part has integers: how many bits they have, and which bytes of the part stand in
front. -/
abbrev IntegerSites := (bits : Nat) → (before : Bytes) → Prop

/-- An integer at the very front, and no other. -/
def IntegerSites.front (width : Nat) : IntegerSites := fun bits before => bits = width ∧ before = []

/-- No integer anywhere. -/
def IntegerSites.none : IntegerSites := fun _ _ => False

namespace Leb128

/-- As many bytes as an integer of `bits` bits may have, none of which is the last. -/
def Endless (bits : Nat) (bytes : Bytes) : Prop :=
  ∃ run, run <+: bytes ∧ run.length = (bits + 6) / 7 ∧ ∀ b ∈ run, 128 ≤ b

/-- An integer that ends in time, but does not fit into `bits` bits. -/
def Oversized (bits : Nat) (bytes : Bytes) : Prop :=
  ∃ front last, front ++ [last] <+: bytes ∧ (∀ b ∈ front, 128 ≤ b) ∧ last < 128 ∧
    (front ++ [last]).length ≤ (bits + 6) / 7 ∧ 2 ^ bits ≤ value (front ++ [last])

/-- A byte with the top bit leaves the rest of an integer seven bits narrower. -/
theorem groups_succ (bits : Nat) : (bits + 8 + 6) / 7 = (bits + 1 + 6) / 7 + 1 := by
  omega

theorem Endless.cons {bits : Nat} {b : UInt8} {rest : Bytes} (marked : 128 ≤ b)
    (h : Endless (bits + 1) rest) : Endless (bits + 8) (b :: rest) := by
  obtain ⟨run, start, length, all⟩ := h
  refine ⟨b :: run, List.cons_prefix_cons.2 ⟨rfl, start⟩, ?_, List.forall_mem_cons.2 ⟨marked, all⟩⟩
  rw [List.length_cons, length, groups_succ]

theorem Oversized.cons {bits : Nat} {b : UInt8} {rest : Bytes} (marked : 128 ≤ b)
    (h : Oversized (bits + 1) rest) : Oversized (bits + 8) (b :: rest) := by
  obtain ⟨front, last, start, all, ended, length, amount⟩ := h
  refine ⟨b :: front, last, List.cons_prefix_cons.2 ⟨rfl, start⟩,
    List.forall_mem_cons.2 ⟨marked, all⟩, ended, ?_, ?_⟩
  · rw [List.cons_append, List.length_cons, groups_succ]
    omega
  · have width : 2 ^ (bits + 8) = 128 * 2 ^ (bits + 1) := by
      rw [Nat.pow_add 2 bits 8, Nat.pow_add 2 bits 1]
      omega
    have sum : value (b :: (front ++ [last])) = b.toNat % 128 + 128 * value (front ++ [last]) := rfl
    rw [List.cons_append, sum, width]
    omega

/-- A single byte that is too large for fewer bits than a group has. -/
theorem oversized_singleton {bits : Nat} {b : UInt8} (rest : Bytes) (single : (bits + 6) / 7 = 1)
    (ended : b < 128) (large : b.toNat >>> bits ≠ 0) : Oversized bits (b :: rest) := by
  have small : b.toNat < 128 := UInt8.lt_iff_toNat_lt.1 ended
  refine ⟨[], b, ⟨rest, rfl⟩, by simp, ended, single ▸ Nat.le_refl 1, ?_⟩
  -- a bit above the width is set, so the byte reaches beyond it
  rw [Nat.shiftRight_eq_div_pow, ne_eq, Nat.div_eq_zero_iff_lt (Nat.two_pow_pos bits),
    Nat.not_lt] at large
  simpa [value, Nat.mod_eq_of_lt small] using large

end Leb128

/-- Some bytes end in a number that announces so many bytes. -/
def Announced (count : Nat) (before : Bytes) : Prop :=
  ∃ front size, before = front ++ size ∧ Leb128.SpelledBy 32 count size

theorem Announced.behind {count : Nat} {before : Bytes} (h : Announced count before)
    (front : Bytes) : Announced count (front ++ before) := by
  obtain ⟨first, size, rfl, spelled⟩ := h
  exact ⟨front ++ first, size, (List.append_assoc _ _ _).symm, spelled⟩

/-- The largest tag that is known in a place. -/
def TagRole.largest : TagRole → UInt8
  | .importKind | .exportKind => 3
  | .mutability => 1

namespace FormatError

/-- An error is deserved by what stands at its offset: `before` and `rest` are the bytes of a window
in front of the offset and from there on. -/
inductive FaultAt (sites : IntegerSites) (before rest : Bytes) (offset : Nat) : FormatError → Prop
  /-- The window ends too soon for a byte, or for as many bytes as were announced. -/
  | unexpectedEnd {count : Nat} : count = 1 ∨ Announced count before → rest.length < count →
      FaultAt sites before rest offset (.unexpectedEnd offset (count - rest.length))
  | integerTooLong {bits : Nat} : sites bits before → Leb128.Endless bits rest →
      FaultAt sites before rest offset (.integerTooLong offset)
  | integerTooLarge {bits : Nat} : sites bits before → Leb128.Oversized bits rest →
      FaultAt sites before rest offset (.integerTooLarge offset)
  | malformedUtf8 {raw : Bytes} : Announced raw.length before → raw <+: rest →
      Utf8.decode? raw = none → FaultAt sites before rest offset (.malformedUtf8 offset)
  | badTypeForm {form : UInt8} : rest.head? = some form → form ≠ 0x60 →
      FaultAt sites before rest offset (.badTypeForm form offset)
  | badKind {role : TagRole} {tag : UInt8} : rest.head? = some tag → role.largest < tag →
      FaultAt sites before rest offset (.badKind role tag offset)
  | badLimits {flags : UInt8} : rest.head? = some flags → 7 < flags →
      FaultAt sites before rest offset (.badLimits flags offset)

/-- An error is deserved somewhere in the window of a cursor. -/
def FaultIn (sites : IntegerSites) (c : Cursor) (e : FormatError) : Prop :=
  ∃ before rest, c.window = before ++ rest ∧ e.FaultAt sites before rest (c.offset + before.length)

variable {sites inner : IntegerSites} {e : FormatError}

theorem FaultAt.behind {before rest : Bytes} {offset : Nat}
    (h : e.FaultAt inner before rest offset) (front : Bytes)
    (moved : ∀ bits, inner bits before → sites bits (front ++ before)) :
    e.FaultAt sites (front ++ before) rest offset := by
  cases h with
  | unexpectedEnd read short =>
    exact .unexpectedEnd (read.imp_right fun announced => announced.behind front) short
  | integerTooLong due endless => exact .integerTooLong (moved _ due) endless
  | integerTooLarge due oversized => exact .integerTooLarge (moved _ due) oversized
  | malformedUtf8 announced start invalid =>
    exact .malformedUtf8 (announced.behind front) start invalid
  | badTypeForm head wrong => exact .badTypeForm head wrong
  | badKind head wrong => exact .badKind head wrong
  | badLimits head wrong => exact .badLimits head wrong

/-- What is at fault behind some bytes is at fault in the whole window. -/
theorem FaultIn.behind {c c₁ : Cursor} (h : e.FaultIn inner c₁) (front : Bytes)
    (window : c.window = front ++ c₁.window) (offset : c₁.offset = c.offset + front.length)
    (moved : ∀ bits before, inner bits before → sites bits (front ++ before)) :
    e.FaultIn sites c := by
  obtain ⟨before, rest, split, fault⟩ := h
  refine ⟨front ++ before, rest, by rw [window, split, List.append_assoc], ?_⟩
  rw [List.length_append, ← Nat.add_assoc, ← offset]
  exact fault.behind front fun bits => moved bits before

/-- What is at fault at the place of the cursor is at fault in its window. -/
theorem FaultIn.here {c : Cursor} (h : e.FaultAt sites [] c.window c.offset) :
    e.FaultIn sites c :=
  ⟨[], c.window, rfl, h⟩

theorem FaultIn.mono {c : Cursor} (h : e.FaultIn inner c)
    (le : ∀ bits before, inner bits before → sites bits before) : e.FaultIn sites c :=
  h.behind [] rfl rfl le

end FormatError

namespace Reader

theorem bind_eq_error_iff {r : Reader α} {f : α → Reader β} {c : Cursor} {e : FormatError} :
    (r >>= f) c = .error e ↔ r c = .error e ∨ ∃ a c₁, r c = .ok (a, c₁) ∧ f a c₁ = .error e := by
  change (r c >>= fun p => f p.1 p.2) = _ ↔ _
  rw [Outcome.bind_eq_error_iff, Prod.exists]

theorem bytes_eq_error_iff {count : Nat} {c : Cursor} {e : FormatError} :
    Reader.bytes count c = .error e ↔ c.remaining < count ∧ e = c.tooShort count := by
  unfold Reader.bytes
  split
  · next enough => simp [Nat.not_lt.2 enough]
  · next short => simp [Nat.lt_of_not_le short, eq_comm]

end Reader

namespace Leb128

/-- The groups of an integer fail for want of a byte, or because no byte ends them in time, or
because they amount to too much. -/
inductive GroupsFail (start bits : Nat) (c : Cursor) : FormatError → Prop
  | cut : GroupsFail start bits c (.unexpectedEnd (c.offset + c.window.length) 1)
  | endless : Endless bits c.window → GroupsFail start bits c (.integerTooLong start)
  | oversized : Oversized bits c.window → GroupsFail start bits c (.integerTooLarge start)

/-- What is wrong with the groups behind a byte with the top bit is wrong with all of them. -/
theorem GroupsFail.cons {start bits offset : Nat} {b : UInt8} {rest : Bytes} {e : FormatError}
    (marked : 128 ≤ b) (h : GroupsFail start (bits + 1) ⟨offset + 1, rest⟩ e) :
    GroupsFail start (bits + 8) ⟨offset, b :: rest⟩ e := by
  cases h with
  | cut =>
    have stop : offset + 1 + rest.length = offset + (b :: rest).length := by
      rw [List.length_cons]
      omega
    dsimp only
    rw [stop]
    exact .cut
  | endless run => exact .endless (run.cons marked)
  | oversized run => exact .oversized (run.cons marked)

/-- The last group that fits fails if it asks for another, or reaches beyond the width. -/
theorem groupsFail_of_narrow {start bits : Nat} {c : Cursor} {e : FormatError} (pos : 0 < bits)
    (narrow : bits < 8) (h : groups start bits c = .error e) :
    GroupsFail start bits c e := by
  have single : (bits + 6) / 7 = 1 := by omega
  obtain ⟨offset, window⟩ := c
  unfold groups at h
  split at h
  · omega
  cases window with
  | nil =>
    cases h
    exact .cut
  | cons b rest =>
    change (if b ≥ 128 then throw _ else if b.toNat >>> bits ≠ 0 then throw _ else _ :
      Reader Nat) ⟨offset + 1, rest⟩ = _ at h
    split at h
    · next marked =>
      cases h
      exact .endless ⟨[b], ⟨rest, rfl⟩, single.symm, List.forall_mem_singleton.2 marked⟩
    next ended =>
    split at h
    · next large =>
      cases h
      exact .oversized (oversized_singleton rest single (UInt8.not_le.1 ended) large)
    · cases h

theorem groupsFail_of_groups {start bits : Nat} {c : Cursor} {e : FormatError} (pos : 0 < bits)
    (h : groups start bits c = .error e) : GroupsFail start bits c e := by
  -- induction on the width, which shrinks by seven from group to group
  induction bits using Nat.strongRecOn generalizing c with
  | ind bits ih =>
    rcases Nat.lt_or_ge bits 8 with narrow | wide
    · exact groupsFail_of_narrow pos narrow h
    obtain ⟨bits, rfl⟩ := Nat.exists_eq_add_of_le' wide
    obtain ⟨offset, window⟩ := c
    unfold groups at h
    cases window with
    | nil =>
      cases h
      exact .cut
    | cons b rest =>
      change (if b < 128 then pure b.toNat else _ : Reader Nat) ⟨offset + 1, rest⟩ = _ at h
      split at h
      · cases h
      next more =>
      rcases Reader.bind_eq_error_iff.1 h with failed | ⟨_, _, _, none⟩
      · exact (ih (bits + 1) (by omega) (Nat.succ_pos bits) failed).cons (UInt8.not_lt.1 more)
      · cases none

end Leb128

namespace Reader

/-- A reader all of whose errors are deserved by its window. -/
def Blames (r : Reader α) (sites : IntegerSites) : Prop :=
  ∀ c e, r c = .error e → e.FaultIn sites c

namespace Blames

variable {r : Reader α} {S : Spelling α} {sites inner : IntegerSites}

theorem mono (h : Blames r inner) (le : ∀ bits before, inner bits before → sites bits before) :
    Blames r sites :=
  fun c e run => (h c e run).mono le

protected theorem pure (a : α) : Blames (pure a) sites := by
  intro c e run
  cases run

protected theorem map (h : Blames r sites) (f : α → β) :
    Blames (r >>= fun a => pure (f a)) sites := by
  intro c e run
  rcases bind_eq_error_iff.1 run with failed | ⟨_, _, _, none⟩
  · exact h c e failed
  · cases none

/-- In a sequence, the second part blames what stands behind the first. -/
protected theorem bind {f : α → Reader β} {first : IntegerSites} {second : α → IntegerSites}
    (accepts : Accepts r S) (blames : Blames r first) (next : ∀ a, Blames (f a) (second a))
    (here : ∀ bits before, first bits before → sites bits before)
    (behind : ∀ a front bits before, S a front → second a bits before →
      sites bits (front ++ before)) : Blames (r >>= f) sites := by
  intro c e run
  rcases bind_eq_error_iff.1 run with failed | ⟨a, c₁, read, failed⟩
  · exact (blames c e failed).mono here
  · obtain ⟨taken, spelled, window, offset⟩ := (accepts _ _ _).1 read
    exact (next a c₁ e failed).behind taken window offset fun bits before =>
      behind a taken bits before spelled

/-- A byte with a meaning: either it is at fault itself, or something behind it is. -/
theorem tagged {g : Nat → UInt8 → Reader α} {s : UInt8 → IntegerSites}
    (judge : ∀ b (c : Cursor) e, g c.offset b ⟨c.offset + 1, c.window⟩ = .error e →
      e.FaultAt sites [] (b :: c.window) c.offset ∨
        e.FaultIn (s b) ⟨c.offset + 1, c.window⟩)
    (behind : ∀ b bits before, s b bits before → sites bits (b :: before)) :
    Blames (Reader.offset >>= fun start => Reader.byte >>= g start) sites := by
  intro c e run
  change (Reader.byte >>= g c.offset) c = .error e at run
  obtain ⟨offset, window⟩ := c
  cases window with
  | nil =>
    cases run
    exact .here (.unexpectedEnd (.inl rfl) Nat.zero_lt_one)
  | cons b rest =>
    rcases judge b ⟨offset, rest⟩ e run with fault | fault
    · exact .here fault
    · exact fault.behind [b] rfl rfl fun bits before => behind b bits before

protected theorem byte : Blames Reader.byte .none := by
  intro c e run
  obtain ⟨offset, window⟩ := c
  cases window with
  | nil =>
    cases run
    exact .here (.unexpectedEnd (.inl rfl) Nat.zero_lt_one)
  | cons b rest => cases run

protected theorem read {bits : Nat} (pos : 0 < bits) :
    Blames (Leb128.read bits) (.front bits) := by
  intro c e run
  cases Leb128.groupsFail_of_groups pos run with
  | cut =>
    refine ⟨c.window, [], (List.append_nil _).symm, ?_⟩
    exact .unexpectedEnd (.inl rfl) (by decide)
  | endless marked => exact .here (.integerTooLong ⟨rfl, rfl⟩ marked)
  | oversized large => exact .here (.integerTooLarge ⟨rfl, rfl⟩ large)

protected theorem u32 : Blames Reader.u32 (.front 32) := (Blames.read (by decide)).map UInt32.ofNat

protected theorem u64 : Blames Reader.u64 (.front 64) := (Blames.read (by decide)).map UInt64.ofNat

/-! ## Names and vectors -/

/-- A part whose size stands right in front of it. -/
theorem tooShort_faultIn {c c₁ : Cursor} {size : UInt32} (read : Reader.u32 c = .ok (size, c₁))
    (short : ¬ size.toNat ≤ c₁.remaining) : (c₁.tooShort size.toNat).FaultIn sites c := by
  obtain ⟨taken, spelled, window, offset⟩ := (Accepts.u32 _ _ _).1 read
  refine ⟨taken, c₁.window, window, ?_⟩
  rw [← offset]
  exact .unexpectedEnd (.inr ⟨[], taken, rfl, spelled⟩) (Nat.lt_of_not_le short)

protected theorem name : Blames Reader.name (.front 32) := by
  intro c e run
  rcases bind_eq_error_iff.1 run with failed | ⟨size, c₁, read, run⟩
  · exact Blames.u32 c e failed
  change (Reader.bytes size.toNat >>= Reader.text c₁.offset) c₁ = .error e at run
  rcases bind_eq_error_iff.1 run with failed | ⟨_, c₂, held, run⟩
  · obtain ⟨short, rfl⟩ := bytes_eq_error_iff.1 failed
    exact tooShort_faultIn read (Nat.not_le.2 short)
  · obtain ⟨taken, spelled, window, offset⟩ := (Accepts.u32 _ _ _).1 read
    obtain ⟨raw, ⟨rfl, length⟩, split, _⟩ := (Accepts.bytes _ _ _ _).1 held
    unfold Reader.text at run
    cases decoded : Utf8.decode? raw with
    | some text =>
      rw [decoded] at run
      cases run
    | none =>
      rw [decoded] at run
      cases run
      refine ⟨taken, c₁.window, window, ?_⟩
      rw [← offset]
      have announced : Announced raw.length taken := ⟨[], taken, rfl, by rwa [length]⟩
      exact .malformedUtf8 announced ⟨c₂.window, split.symm⟩ decoded

/-- An item of a row is at fault behind the items before it. -/
protected theorem times (accepts : Accepts r S) (blames : Blames r sites) (count : Nat) :
    Blames (Reader.times r count) (fun bits before => ∃ items front back,
      Spelling.Items S items front ∧ items.length < count ∧ sites bits back ∧
        before = front ++ back) := by
  induction count with
  | zero => exact Blames.pure []
  | succ count ih =>
    refine Blames.bind accepts blames (fun first => ih.map fun rest => first :: rest) ?_ ?_
    · exact fun bits before due => ⟨[], [], before, .nil, Nat.succ_pos count, due, rfl⟩
    · intro first taken bits before spelled given
      obtain ⟨items, front, back, others, fewer, due, rfl⟩ := given
      refine ⟨first :: items, taken ++ front, back, .cons spelled others, ?_, due, ?_⟩
      · exact Nat.succ_lt_succ fewer
      · rw [List.append_assoc]

end Blames

end Reader

/-- The integers of a vector: its count, and those of each item. -/
inductive Spelling.Vector.IntegerAfter (S : Spelling α) (sites : IntegerSites) : IntegerSites
  | count : IntegerAfter S sites 32 []
  | item {count bits : Nat} {items : List α} {size front before : Bytes} :
      Leb128.SpelledBy 32 count size → Spelling.Items S items front → items.length < count →
      sites bits before → IntegerAfter S sites bits (size ++ (front ++ before))

namespace Reader.Blames

protected theorem vector {r : Reader α} {S : Spelling α} {sites : IntegerSites}
    (accepts : Accepts r S) (blames : Blames r sites) :
    Blames (Reader.vector r) (Spelling.Vector.IntegerAfter S sites) := by
  refine Blames.bind Accepts.u32 Blames.u32
    (fun count => Blames.times accepts blames count.toNat) ?_ ?_
  · intro bits before first
    obtain ⟨rfl, rfl⟩ := first
    exact .count
  · intro count size bits before spelled given
    obtain ⟨items, front, back, row, fewer, due, rfl⟩ := given
    exact .item spelled row fewer due

end Reader.Blames

end WasmBindings
