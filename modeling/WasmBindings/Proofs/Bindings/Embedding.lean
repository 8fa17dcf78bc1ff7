import WasmBindings.Bindings.Wrapper
import WasmBindings.Proofs.Bindings.Comment
import WasmBindings.Proofs.Text.Base64
import WasmBindings.Proofs.Text.Delimited

/-!
# The binary in its wrapper

Whoever looks for the binary in a wrapper finds it: behind the first place where the literal is
opened, and up to the next quote (`Enclosed`). The characters of base64 are such that the literal
ends nowhere else, whatever the binary is. They can spell words of the code around them, though not
one with a blank in it; so a word with a blank can be looked for in the code alone, piece by piece
between the quotes of the literal (`standsAt_append_cons_iff`). In this way the wrapper is seen to
export one thing, in its last line.
-/

namespace WasmBindings

/-! ## Words in a text -/

/-- A word stands in a text behind so many characters. -/
def StandsAt (word text : List Char) (offset : Nat) : Prop := word <+: text.drop offset

/-- A word stands in a text in this one place. -/
def StandsOnlyAt (word text : List Char) (place : Nat) : Prop :=
  ∀ offset, StandsAt word text offset ↔ offset = place

/-- Some characters stand between the first opening in a text and the next closing character. -/
def Enclosed (opening : List Char) (closing : Char) (inner text : List Char) : Prop :=
  ∃ front back, text = front ++ (opening ++ (inner ++ closing :: back)) ∧
    (∀ offset, StandsAt opening text offset → front.length ≤ offset) ∧ closing ∉ inner

theorem infix_of_standsAt {word text : List Char} {offset : Nat} (h : StandsAt word text offset) :
    word <:+: text :=
  (List.IsPrefix.isInfix h).trans (List.drop_suffix offset text).isInfix

/-- A word in front of a character that is none of its own does not reach it. -/
theorem prefix_append_cons_iff {word front back : List Char} {c : Char} (apart : c ∉ word) :
    word <+: front ++ c :: back ↔ word <+: front := by
  refine ⟨fun h => ?_, fun h => h.trans (List.prefix_append _ _)⟩
  rcases List.prefix_or_prefix_of_prefix h (List.prefix_append front (c :: back)) with
    inside | beyond
  · exact inside
  obtain ⟨rest, rfl⟩ := beyond
  cases rest with
  | nil => rw [List.append_nil]
  | cons d rest =>
    obtain ⟨rfl, _⟩ := List.cons_prefix_cons.1 ((List.prefix_append_right_inj front).1 h)
    exact absurd (by simp) apart

/-- Where a text is divided by a character that a word does not have, the word stands on one
side. -/
theorem standsAt_append_cons_iff {word front back : List Char} {c : Char} {offset : Nat}
    (some : word ≠ []) (apart : c ∉ word) :
    StandsAt word (front ++ c :: back) offset ↔ StandsAt word front offset ∨
      ∃ further, offset = front.length + 1 + further ∧ StandsAt word back further := by
  unfold StandsAt
  rcases Nat.lt_or_ge front.length offset with behind | inside
  · obtain ⟨further, rfl⟩ := Nat.exists_eq_add_of_le (Nat.succ_le_of_lt behind)
    have none : front.drop (front.length + 1 + further) = [] :=
      List.drop_eq_nil_of_le (by omega)
    have rest : (front ++ c :: back).drop (front.length + 1 + further) = back.drop further := by
      rw [List.append_cons, ← List.drop_drop, List.drop_left' (by simp)]
    rw [none, rest, List.prefix_nil]
    constructor
    · exact fun h => .inr ⟨further, rfl, h⟩
    · intro given
      rcases given with empty | ⟨other, same, h⟩
      · exact absurd empty some
      · obtain rfl : further = other := by omega
        exact h
  · rw [List.drop_append_of_le_length inside, prefix_append_cons_iff apart]
    constructor
    · exact .inl
    · intro given
      rcases given with h | ⟨_, same, _⟩
      · exact h
      · omega

/-- A word that stands in one place behind a piece of text without it stands nowhere else. -/
theorem StandsOnlyAt.behind {word front back : List Char} {c : Char} {place : Nat}
    (h : StandsOnlyAt word back place) (some : word ≠ []) (apart : c ∉ word)
    (free : ¬ word <:+: front) :
    StandsOnlyAt word (front ++ c :: back) (front.length + 1 + place) := by
  intro offset
  rw [standsAt_append_cons_iff some apart]
  constructor
  · intro given
    rcases given with early | ⟨further, same, stands⟩
    · exact absurd (infix_of_standsAt early) free
    · rw [same, (h further).1 stands]
  · exact fun same => .inr ⟨place, same, (h place).2 rfl⟩

/-- What stands in the first place of its kind is one text. -/
theorem Enclosed.unique {opening inner other text : List Char} {closing : Char}
    (h : Enclosed opening closing inner text) (h' : Enclosed opening closing other text) :
    inner = other := by
  obtain ⟨front, back, split, first, inside⟩ := h
  obtain ⟨front', back', split', first', inside'⟩ := h'
  have place : StandsAt opening text front.length := by
    rw [StandsAt, split, List.drop_left]
    exact List.prefix_append _ _
  have place' : StandsAt opening text front'.length := by
    rw [StandsAt, split', List.drop_left]
    exact List.prefix_append _ _
  have same : front.length = front'.length :=
    Nat.le_antisymm (first _ place') (first' _ place)
  have behind := (List.append_inj (split.symm.trans split') same).2
  have free {cs : List Char} (none : closing ∉ cs) : cs.all (· != closing) := by
    rw [List.all_eq_true]
    intro c hc
    rw [bne_iff_ne]
    exact fun bad => none (bad ▸ hc)
  exact (append_cons_inj_of_all (free inside) (free inside') (by simp) (by simp)
    (List.append_cancel_left behind)).1

namespace Wrapper

/-- What stands in front of the literal, up to its quote. -/
def assigned : List Char := "const wasm = ".toList

/-- What exports something. -/
def exporting : List Char := "export ".toList

/-- The line that exports the factory. -/
def exportLine : List Char := "export default instantiate;".toList

/-- The code in front of the literal, without the line break at its end. -/
def codeBefore : List Char := decoder.toList.dropLast

/-- The code between the literal and the last line, without the line break at its end. -/
def codeBehind (mode : Mode) : List Char := (";\n" ++ factory mode).toList.dropLast

-- the kernel is slow to decode a literal, so these are written out as their characters first

/-- The code in front ends its last line, and neither exports anything nor opens the literal. -/
theorem codeBefore_spec : decoder.toList = codeBefore ++ ['\n'] ∧ ¬ exporting <:+: codeBefore ∧
    ¬ "const wasm = \"".toList <:+: codeBefore := by
  unfold codeBefore exporting decoder
  simp only [String.toList_append]
  repeat rw [String.toList_ofList]
  decide +kernel

/-- The code behind ends its last line and does not export anything. -/
theorem codeBehind_spec (mode : Mode) :
    (";\n" ++ factory mode).toList = codeBehind mode ++ ['\n'] ∧
      ¬ exporting <:+: codeBehind mode := by
  unfold codeBehind exporting factory WasmBindings.entryPoint
  cases mode
  all_goals
    simp only [toString, String.toList_append]
    repeat rw [String.toList_ofList]
    decide +kernel

theorem toList_exported : exported.toList = exportLine ++ ['\n'] := by
  unfold exported exportLine WasmBindings.entryPoint
  simp only [toString, String.toList_append]
  repeat rw [String.toList_ofList]
  rfl

theorem toList_opening : "const wasm = \"".toList = assigned ++ ['"'] := by
  unfold assigned
  repeat rw [String.toList_ofList]
  rfl

theorem exporting_eq : exporting = ['e', 'x', 'p', 'o', 'r', 't', ' '] := String.toList_ofList

/-- The pieces of a wrapper, divided by the line breaks around the literal and by its quotes. -/
theorem toList_source (binary : Bytes) (mode : Mode) : (make binary mode).source.toList =
    codeBefore ++ '\n' :: (assigned ++ '"' :: (Base64.encode binary ++ '"' ::
      (codeBehind mode ++ '\n' :: (exportLine ++ ['\n'])))) := by
  have closing : "\";\n".toList = '"' :: ";\n".toList := by
    repeat rw [String.toList_ofList]
  have behind := (codeBehind_spec mode).1
  rw [String.toList_append] at behind
  unfold make literal
  simp only [String.toList_append, String.toList_ofList, toList_opening, closing, codeBefore_spec.1,
    toList_exported, List.append_assoc, List.cons_append, List.nil_append]
  rw [← List.append_assoc ";\n".toList, behind]
  simp only [List.append_assoc, List.cons_append, List.nil_append]

/-! ## Where words stand in a wrapper -/

/-- Base64 is written with letters, digits and three other characters. -/
theorem not_mem_encode {c : Char} (other : (c.isAlphanum || ['+', '/', '='].contains c) = false)
    (binary : Bytes) : c ∉ Base64.encode binary := by
  have all : ('=' :: Base64.alphabet).all fun c =>
      c.isAlphanum || ['+', '/', '='].contains c := by
    unfold Base64.alphabet
    rw [String.toList_ofList]
    decide
  intro h
  have own := List.all_eq_true.1 all c ((Base64.standard_encode binary).mem h)
  rw [other] at own
  cases own

theorem quote_not_mem_encode (binary : Bytes) : '"' ∉ Base64.encode binary :=
  not_mem_encode (by decide) binary

/-- The literal is the first one that is opened like this. -/
theorem enclosed_literal (binary : Bytes) (mode : Mode) :
    Enclosed "const wasm = \"".toList '"' (Base64.encode binary)
      (make binary mode).source.toList := by
  refine ⟨codeBefore ++ ['\n'], codeBehind mode ++ '\n' :: (exportLine ++ ['\n']), ?_, ?_,
    quote_not_mem_encode binary⟩
  · rw [toList_source, toList_opening]
    simp only [List.append_assoc, List.cons_append, List.nil_append]
  · intro offset stands
    have some : "const wasm = \"".toList ≠ [] := by
      rw [String.toList_ofList]
      decide
    have unbroken : '\n' ∉ "const wasm = \"".toList := by
      rw [String.toList_ofList]
      decide
    rw [toList_source, standsAt_append_cons_iff some unbroken] at stands
    rcases stands with early | ⟨further, same, _⟩
    · exact absurd (infix_of_standsAt early) codeBefore_spec.2.2
    · rw [same, List.length_append, List.length_singleton]
      exact Nat.le_add_right _ _

/-- The last line starts with the word that exports, and does not have it again. -/
theorem standsOnlyAt_exportLine : StandsOnlyAt exporting (exportLine ++ ['\n']) 0 := by
  have start : exporting <+: exportLine ++ ['\n'] := by
    unfold exporting exportLine
    repeat rw [String.toList_ofList]
    decide
  have once : ¬ exporting <:+: (exportLine ++ ['\n']).tail := by
    unfold exporting exportLine
    repeat rw [String.toList_ofList]
    decide
  intro offset
  cases offset with
  | zero => exact iff_of_true start rfl
  | succ offset =>
    refine iff_of_false (fun stands => once ?_) (Nat.succ_ne_zero offset)
    rw [StandsAt, ← List.drop_tail] at stands
    exact infix_of_standsAt stands

/-- Something is exported in the last line and nowhere else. -/
theorem exporting_standsOnlyAt (binary : Bytes) (mode : Mode) :
    ∃ front, (make binary mode).source.toList = front ++ '\n' :: (exportLine ++ ['\n']) ∧
      StandsOnlyAt exporting (make binary mode).source.toList (front.length + 1) := by
  have some : exporting ≠ [] := by
    rw [exporting_eq]
    decide
  have unquoted : '"' ∉ exporting := by
    rw [exporting_eq]
    decide
  have unbroken : '\n' ∉ exporting := by
    rw [exporting_eq]
    decide
  have start : ¬ exporting <:+: assigned := by
    unfold assigned
    rw [exporting_eq, String.toList_ofList]
    decide
  -- the word has a blank in it, which base64 has not
  have blank : ' ' ∈ exporting := by
    rw [exporting_eq]
    decide
  have literal : ¬ exporting <:+: Base64.encode binary :=
    fun h => not_mem_encode (by decide) binary (h.subset blank)
  have only := (((standsOnlyAt_exportLine.behind some unbroken (codeBehind_spec mode).2).behind
    some unquoted literal).behind some unquoted start).behind some unbroken codeBefore_spec.2.1
  refine ⟨codeBefore ++ '\n' :: (assigned ++ '"' :: (Base64.encode binary ++ '"' ::
    codeBehind mode)), ?_, ?_⟩
  · rw [toList_source]
    simp only [List.append_assoc, List.cons_append]
  · have place (a b c d : List Char) : (a ++ '\n' :: (b ++ '"' :: (c ++ '"' :: d))).length + 1 =
        a.length + 1 + (b.length + 1 + (c.length + 1 + (d.length + 1 + 0))) := by
      simp only [List.length_append, List.length_cons]
      omega
    rw [toList_source, place]
    exact only

/-- **A wrapper carries exactly the binary it is made for,** and exports one thing. -/
theorem make_carries_binary (binary : Bytes) (mode : Mode) :
    (∀ text, Enclosed "const wasm = \"".toList '"' text (make binary mode).source.toList ↔
      text = Base64.encode binary) ∧
    Base64.Standard binary (Base64.encode binary) ∧
    Base64.decode? (Base64.encode binary) = some binary ∧
    (∀ c ∈ Base64.encode binary, c ≠ '"' ∧ c ≠ '\\' ∧
      Declarations.LineBreaks.script.isBreak c = false) ∧
    ∃ front, (make binary mode).source.toList =
        front ++ '\n' :: ("export default instantiate;".toList ++ ['\n']) ∧
      StandsOnlyAt "export ".toList (make binary mode).source.toList (front.length + 1) := by
  have printable : ('=' :: Base64.alphabet).all fun c => 32 ≤ c.toNat && c.toNat ≤ 126 := by
    unfold Base64.alphabet
    rw [String.toList_ofList]
    decide
  have unbroken := Declarations.LineBreaks.script.unbroken_of_printable _ printable
  refine ⟨fun text => ⟨?_, ?_⟩, Base64.standard_encode binary, Base64.decode?_encode binary, ?_,
    exporting_standsOnlyAt binary mode⟩
  · exact fun found => found.unique (enclosed_literal binary mode)
  · intro same
    rw [same]
    exact enclosed_literal binary mode
  · intro c hc
    refine ⟨?_, ?_, unbroken c ((Base64.standard_encode binary).mem hc)⟩
    · exact fun quote => quote_not_mem_encode binary (quote ▸ hc)
    · exact fun backslash => not_mem_encode (by decide) binary (backslash ▸ hc)

end Wrapper

end WasmBindings
