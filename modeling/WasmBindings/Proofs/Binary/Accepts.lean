import WasmBindings.Binary.Section

/-!
# Which bytes a reader accepts

A spelling relates values to the bytes that may stand for them. A reader accepts a spelling when it
takes exactly the bytes that spell a value off the front of its window, whatever comes after them,
and gives that value. This says both what is refused and what is read, so the format of a part can
be written down as a relation, away from the code, and joined to its reader by one lemma.

The combinators below follow the ways in which readers are built. Errors carry offsets, so readers
ask where they stand; what they accept never depends on it (`Accepts.located`).
-/

namespace WasmBindings

/-- Which bytes may stand for which values. -/
abbrev Spelling (α : Type) := α → Bytes → Prop

/-- No bytes spell two values. -/
def Spelling.Unambiguous (S : Spelling α) : Prop :=
  ∀ a b bytes, S a bytes → S b bytes → a = b

/-- The spellings of a row of items, one after the other. -/
inductive Spelling.Items (S : Spelling α) : Spelling (List α)
  | nil : Items S [] []
  | cons {a : α} {items : List α} {front back : Bytes} :
      S a front → Items S items back → Items S (a :: items) (front ++ back)

namespace Reader

/-- A reader of exactly the spellings `S`: it succeeds if the window starts with one, and stops
right behind it. -/
def Accepts (r : Reader α) (S : Spelling α) : Prop :=
  ∀ c a c', r c = .ok (a, c') ↔
    ∃ taken, S a taken ∧ c.window = taken ++ c'.window ∧ c'.offset = c.offset + taken.length

/-- A sequence succeeds if both of its parts do. -/
theorem bind_eq_ok_iff {r : Reader α} {f : α → Reader β} {c c' : Cursor} {b : β} :
    (r >>= f) c = .ok (b, c') ↔ ∃ a c₁, r c = .ok (a, c₁) ∧ f a c₁ = .ok (b, c') := by
  change (r c >>= fun p => f p.1 p.2) = _ ↔ _
  constructor
  · intro run
    cases h : r c with
    | error e => rw [h] at run; cases run
    | ok p => rw [h] at run; exact ⟨p.1, p.2, rfl, run⟩
  · intro given
    obtain ⟨a, c₁, first, second⟩ := given
    rw [first]
    exact second

theorem pure_eq_ok_iff {a b : α} {c c' : Cursor} :
    (pure a : Reader α) c = .ok (b, c') ↔ b = a ∧ c' = c := by
  constructor
  · intro run
    cases run
    exact ⟨rfl, rfl⟩
  · intro h
    obtain ⟨rfl, rfl⟩ := h
    rfl

namespace Accepts

/-- The relation may be put in other words. -/
theorem congr {r : Reader α} {S T : Spelling α} (h : Accepts r S)
    (same : ∀ a bytes, S a bytes ↔ T a bytes) : Accepts r T := by
  intro c a c'
  rw [h c a c']
  simp only [same]

/-- What a reader finds in front of some bytes does not depend on them. -/
theorem append_inj {r : Reader α} {S : Spelling α} (h : Accepts r S) {a b : α}
    {front back front' back' : Bytes} (first : S a front) (second : S b front')
    (same : front ++ back = front' ++ back') : a = b ∧ front = front' := by
  -- the reader runs on the same bytes both times, so it can find one thing only
  have run : r ⟨0, front ++ back⟩ = .ok (a, ⟨front.length, back⟩) :=
    (h _ _ _).2 ⟨front, first, rfl, by simp⟩
  have run' : r ⟨0, front ++ back⟩ = .ok (b, ⟨front'.length, back'⟩) :=
    (h _ _ _).2 ⟨front', second, same, by simp⟩
  rw [run] at run'
  injection run' with pair
  injection pair with value cursor
  injection cursor with size _
  exact ⟨value, List.append_inj_left same size⟩

/-- A relation that has a reader is unambiguous. -/
theorem unambiguous {r : Reader α} {S : Spelling α} (h : Accepts r S) : S.Unambiguous :=
  fun _ _ bytes first second => (h.append_inj first second (Eq.refl (bytes ++ []))).1

protected theorem pure (a : α) : Accepts (pure a) (fun b bytes => b = a ∧ bytes = []) := by
  intro c b c'
  rw [pure_eq_ok_iff]
  constructor
  · intro h
    obtain ⟨rfl, rfl⟩ := h
    exact ⟨[], ⟨rfl, rfl⟩, rfl, rfl⟩
  · intro h
    obtain ⟨_, ⟨rfl, rfl⟩, window, offset⟩ := h
    refine ⟨rfl, ?_⟩
    cases c
    cases c'
    simp_all

/-- A sequence accepts one spelling after the other; the second may depend on the first value. -/
protected theorem bind {r : Reader α} {S : Spelling α} {f : α → Reader β}
    {T : α → Spelling β} (first : Accepts r S) (second : ∀ a, Accepts (f a) (T a)) :
    Accepts (r >>= f)
      (fun b bytes => ∃ a front back, S a front ∧ T a b back ∧ bytes = front ++ back) := by
  intro c b c'
  rw [bind_eq_ok_iff]
  constructor
  · intro h
    obtain ⟨a, c₁, run, run'⟩ := h
    obtain ⟨front, ha, hw, ho⟩ := (first _ _ _).1 run
    obtain ⟨back, hb, hw', ho'⟩ := (second a _ _ _).1 run'
    -- what the second reader left is left by both
    refine ⟨front ++ back, ⟨a, front, back, ha, hb, rfl⟩, ?_, ?_⟩
    · rw [hw, hw', List.append_assoc]
    · rw [ho', ho, List.length_append, Nat.add_assoc]
  · intro h
    obtain ⟨_, ⟨a, front, back, ha, hb, rfl⟩, hw, ho⟩ := h
    rw [List.append_assoc] at hw
    rw [List.length_append, ← Nat.add_assoc] at ho
    exact ⟨a, ⟨c.offset + front.length, back ++ c'.window⟩,
      (first _ _ _).2 ⟨front, ha, hw, rfl⟩, (second a _ _ _).2 ⟨back, hb, rfl, ho⟩⟩

protected theorem map {r : Reader α} {S : Spelling α} (h : Accepts r S) (f : α → β) :
    Accepts (r >>= fun a => pure (f a)) (fun b bytes => ∃ a, S a bytes ∧ b = f a) := by
  refine (h.bind fun a => Accepts.pure (f a)).congr fun b bytes => ?_
  constructor
  · intro given
    obtain ⟨a, front, _, ha, ⟨rfl, rfl⟩, rfl⟩ := given
    exact ⟨a, by rwa [List.append_nil], rfl⟩
  · intro given
    obtain ⟨a, ha, rfl⟩ := given
    exact ⟨a, bytes, [], ha, ⟨rfl, rfl⟩, (List.append_nil _).symm⟩

/-- A reader that only fails accepts nothing. -/
protected theorem throw (e : FormatError) :
    Accepts (throw e : Reader α) (fun _ _ => False) := by
  intro c a c'
  constructor
  · intro run
    cases run
  · intro h
    obtain ⟨_, none, _⟩ := h
    exact none.elim

protected theorem ite {r s : Reader α} {S T : Spelling α} {p : Prop} [Decidable p]
    (yes : Accepts r S) (no : Accepts s T) :
    Accepts (if p then r else s) (fun a bytes => if p then S a bytes else T a bytes) := by
  by_cases hp : p
  · simpa only [if_pos hp] using yes
  · simpa only [if_neg hp] using no

/-- What is accepted depends on no offset. -/
protected theorem located {f : Nat → Reader α} {S : Spelling α}
    (h : ∀ start, Accepts (f start) S) : Accepts (Reader.offset >>= f) S := by
  intro c a c'
  rw [← h c.offset c a c']
  rfl

protected theorem byte : Accepts Reader.byte (fun b bytes => bytes = [b]) := by
  intro c b c'
  obtain ⟨offset, window⟩ := c
  constructor
  · intro run
    cases window with
    | nil => cases run
    | cons _ rest =>
      cases run
      exact ⟨[b], rfl, rfl, rfl⟩
  · intro h
    obtain ⟨_, rfl, hw, ho⟩ := h
    cases c'
    simp_all [Reader.byte]

/-- A byte decides on the reader of what follows it. -/
protected theorem byteThen {f : UInt8 → Reader α} {T : UInt8 → Spelling α}
    (h : ∀ b, Accepts (f b) (T b)) :
    Accepts (Reader.byte >>= f) (fun a bytes => ∃ b rest, T b a rest ∧ bytes = b :: rest) := by
  refine (Accepts.byte.bind h).congr fun a bytes => ?_
  constructor
  · intro given
    obtain ⟨b, _, rest, rfl, ha, rfl⟩ := given
    exact ⟨b, rest, ha, rfl⟩
  · intro given
    obtain ⟨b, rest, ha, rfl⟩ := given
    exact ⟨b, [b], rest, rfl, ha, rfl⟩

protected theorem bytes (count : Nat) :
    Accepts (Reader.bytes count) (fun raw bytes => bytes = raw ∧ raw.length = count) := by
  intro c raw c'
  obtain ⟨offset, window⟩ := c
  unfold Reader.bytes Cursor.advance Cursor.remaining
  constructor
  · intro run
    split at run
    · rename_i enough
      cases run
      have size : (window.take count).length = count := by
        rw [List.length_take]
        exact Nat.min_eq_left enough
      exact ⟨window.take count, ⟨rfl, size⟩, (List.take_append_drop _ _).symm, by simp [size]⟩
    · cases run
  · intro h
    obtain ⟨_, ⟨rfl, rfl⟩, hw, ho⟩ := h
    cases c'
    simp_all

/-- Counted repetition accepts that many items. -/
protected theorem times {r : Reader α} {S : Spelling α} (h : Accepts r S) (count : Nat) :
    Accepts (Reader.times r count)
      (fun items bytes => items.length = count ∧ Spelling.Items S items bytes) := by
  induction count with
  | zero =>
    refine (Accepts.pure []).congr fun items bytes => ?_
    constructor
    · intro given
      obtain ⟨rfl, rfl⟩ := given
      exact ⟨rfl, .nil⟩
    · intro given
      obtain ⟨none, spelled⟩ := given
      cases spelled with
      | nil => exact ⟨rfl, rfl⟩
      | cons => exact absurd none (by simp)
  | succ count ih =>
    -- one item is read first, and the others as before
    refine (h.bind fun first => ih.map fun rest => first :: rest).congr fun items bytes => ?_
    constructor
    · intro given
      obtain ⟨first, front, back, ha, ⟨rest, ⟨size, spelled⟩, rfl⟩, rfl⟩ := given
      exact ⟨by simp [size], .cons ha spelled⟩
    · intro given
      obtain ⟨size, spelled⟩ := given
      cases spelled with
      | nil => exact absurd size (by simp)
      | @cons first rest front back ha spelled =>
        exact ⟨first, front, back, ha, ⟨rest, ⟨by simpa using size, spelled⟩, rfl⟩, rfl⟩

/-- A window is used up by a reader if it is all one spelling. -/
theorem used_up_iff {r : Reader α} {S : Spelling α} (h : Accepts r S) {c : Cursor} {a : α} :
    (∃ c', r c = .ok (a, c') ∧ c'.window = []) ↔ S a c.window := by
  constructor
  · intro given
    obtain ⟨c', run, done⟩ := given
    obtain ⟨taken, ha, hw, _⟩ := (h _ _ _).1 run
    rw [done, List.append_nil] at hw
    rwa [hw]
  · intro ha
    exact ⟨⟨c.offset + c.window.length, []⟩, (h _ _ _).2 ⟨c.window, ha, by simp, rfl⟩, rfl⟩

end Accepts

end Reader

end WasmBindings
