import WasmBindings.Text.Quoted

/-!
# Texts that say where they end

A way to write values down is delimited if what was written can be told from the text alone, whatever
stands behind it. Then one thing can be written behind another and both can be told. Rows of
delimited items are delimited if something stands behind the last that no item starts with
(`Delimited.items`).

String literals are delimited: each character in them is read back from what it was escaped to
(`Quoted.unescape?_escape`), and the quote that closes a literal is no such character.
-/

namespace WasmBindings

/-- A text that tells what it stands for, and where what is behind it starts. -/
def Delimited (write : α → List Char) : Prop :=
  ∀ a b x y, write a ++ x = write b ++ y → a = b ∧ x = y

namespace Delimited

/-- The items of a row are told one after the other, up to something that starts no item. -/
theorem items {write : α → List Char} (h : Delimited write) {stop : List Char}
    (apart : ∀ a x y, write a ++ x ≠ stop ++ y) :
    Delimited fun items : List α => items.flatMap write ++ stop := by
  intro items others x y same
  simp only [List.append_assoc] at same
  induction items generalizing others with
  | nil =>
    cases others with
    | nil => exact ⟨rfl, List.append_cancel_left same⟩
    | cons b others =>
      rw [List.flatMap_cons, List.append_assoc] at same
      exact absurd same.symm (apart _ _ _)
  | cons a items ih =>
    rw [List.flatMap_cons, List.append_assoc] at same
    cases others with
    | nil => exact absurd same (apart _ _ _)
    | cons b others =>
      rw [List.flatMap_cons, List.append_assoc] at same
      obtain ⟨rfl, rest⟩ := h _ _ _ _ same
      obtain ⟨rfl, behind⟩ := ih others rest
      exact ⟨rfl, behind⟩

/-- The same text before and behind what is written is no matter. -/
theorem framed {write : α → List Char} (h : Delimited write) (front back : List Char) :
    Delimited fun a => front ++ (write a ++ back) := by
  intro a b x y same
  simp only [List.append_assoc] at same
  obtain ⟨rfl, rest⟩ := h _ _ _ _ (List.append_cancel_left same)
  exact ⟨rfl, List.append_cancel_left rest⟩

/-- A block that is written in short if there is nothing in it is delimited if it can be told from
the start which way it is written. -/
theorem block {write : List α → List Char} (h : Delimited write) {short start : List Char}
    (apart : ∀ x y, short ++ x ≠ start ++ y) :
    Delimited fun items => if items = [] then short else start ++ write items := by
  intro items others x y same
  dsimp only at same
  split at same
  · next none =>
    split at same
    · next none' => exact ⟨none.trans none'.symm, List.append_cancel_left same⟩
    · rw [List.append_assoc] at same
      exact absurd same (apart _ _)
  · split at same
    · rw [List.append_assoc] at same
      exact absurd same.symm (apart _ _)
    · rw [List.append_assoc, List.append_assoc] at same
      exact h _ _ _ _ (List.append_cancel_left same)

end Delimited

/-- A run of characters of one sort ends where another sort begins. -/
theorem append_cons_inj_of_all {p : Char → Bool} {a b x y : List Char} {c d : Char}
    (ha : a.all p) (hb : b.all p) (hc : p c = false) (hd : p d = false)
    (same : a ++ c :: x = b ++ d :: y) : a = b ∧ c = d ∧ x = y := by
  induction a generalizing b with
  | nil =>
    cases b with
    | nil =>
      obtain ⟨rfl, rfl⟩ := List.cons.inj same
      exact ⟨rfl, rfl, rfl⟩
    | cons e b =>
      obtain ⟨rfl, _⟩ := List.cons.inj same
      rw [List.all_cons, hc, Bool.false_and] at hb
      cases hb
  | cons e a ih =>
    rw [List.all_cons, Bool.and_eq_true] at ha
    cases b with
    | nil =>
      obtain ⟨rfl, _⟩ := List.cons.inj same
      rw [hd] at ha
      exact absurd ha.1 (by decide)
    | cons f b =>
      rw [List.all_cons, Bool.and_eq_true] at hb
      obtain ⟨rfl, rest⟩ := List.cons.inj same
      obtain ⟨rfl, behind⟩ := ih ha.2 hb.2 rest
      exact ⟨rfl, behind⟩

/-! ## String literals -/

namespace Quoted

/-- What a backslash and one character stand for. -/
def short? (c : Char) : Option Char :=
  if c = '"' then some '"'
  else if c = '\\' then some '\\'
  else if c = 'b' then some '\x08'
  else if c = 'f' then some '\x0c'
  else if c = 'n' then some '\n'
  else if c = 'r' then some '\r'
  else if c = 't' then some '\t'
  else none

/-- Reads one character of a literal, and gives what is behind it. -/
def unescape? : List Char → Option (Char × List Char)
  | [] => none
  | c :: rest =>
    if c = '"' then none
    else if c ≠ '\\' then some (c, rest)
    else
      match rest with
      | 'u' :: '0' :: '0' :: high :: low :: rest => do
        let high ← Hex.value? high
        let low ← Hex.value? low
        return (Char.ofNat (16 * high + low), rest)
      | c :: rest => (short? c).map (·, rest)
      | [] => none

/-- A character is read back from what it was escaped to. -/
theorem unescape?_escape (c : Char) (rest : List Char) :
    unescape? (escape c ++ rest) = some (c, rest) := by
  unfold escape
  split
  · next h => subst h; rfl
  split
  · next h => subst h; rfl
  split
  · next h => subst h; rfl
  split
  · next h => subst h; rfl
  split
  · next h => subst h; rfl
  split
  · next h => subst h; rfl
  split
  · next h => subst h; rfl
  split
  · next control =>
    have high := Hex.value?_digit (show c.toNat / 16 < 16 by omega)
    have low := Hex.value?_digit (Nat.mod_lt c.toNat (by decide : 0 < 16))
    change (do
      let high ← Hex.value? (Hex.digit (c.toNat / 16))
      let low ← Hex.value? (Hex.digit (c.toNat % 16))
      return (Char.ofNat (16 * high + low), rest)) = _
    rw [high, low]
    change some (Char.ofNat (16 * (c.toNat / 16) + c.toNat % 16), rest) = _
    rw [Nat.div_add_mod, Char.ofNat_toNat]
  · next quote backslash _ _ _ _ _ _ =>
    change (if c = '"' then none else if c ≠ '\\' then some (c, rest) else _) = _
    rw [if_neg quote, if_pos backslash]

theorem delimited_escape : Delimited escape := by
  intro a b x y same
  have read := congrArg unescape? same
  rw [unescape?_escape, unescape?_escape, Option.some.injEq, Prod.mk.injEq] at read
  exact read

/-- **A string literal says where it ends,** whatever characters it is for. -/
theorem delimited_encodeChars : Delimited encodeChars := by
  have body : Delimited fun cs : List Char => cs.flatMap escape ++ ['"'] := by
    refine delimited_escape.items fun c x y same => ?_
    -- a quote cannot be read as a character
    have read := congrArg unescape? same
    rw [unescape?_escape] at read
    cases read
  intro a b x y same
  exact body a b x y (List.cons.inj same).2

end Quoted

end WasmBindings
