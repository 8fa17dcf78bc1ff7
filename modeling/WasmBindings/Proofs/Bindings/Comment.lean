import WasmBindings.Proofs.Bindings.Surface

/-!
# The comment in front of the declarations

The declarations of a module start with a comment on the imports that `Imports` leaves out. Each has
a line, and the line copies the two parts of its name as the binary has them, which is any text at
all. So it is up to the names whether the comment is what it looks like: it is exactly if none of
them closes the comment or ends a line (`declarations_fenced_iff`). Nothing sees to that, and a name
can bring any code to stand behind the comment (`exists_declarations_carrying`). Member names are
different; they stand quoted.
-/

namespace WasmBindings

namespace Declarations

/-- Which characters end a line. The newline does, and nothing that is printable ASCII does; for
the others it depends on who reads. -/
structure LineBreaks where
  isBreak : Char → Bool
  newline : isBreak '\n' = true
  printable : ∀ c : Char, 32 ≤ c.toNat → c.toNat ≤ 126 → isBreak c = false

/-- Lines end at newlines and nowhere else. -/
def LineBreaks.newlines : LineBreaks where
  isBreak c := c == '\n'
  newline := rfl
  printable c low high := by
    rw [beq_eq_false_iff_ne]
    intro h
    obtain rfl := h
    exact absurd low (by decide)

/-- Lines end as they do in TypeScript. -/
def LineBreaks.script : LineBreaks where
  isBreak c := ['\n', '\r', '\u2028', '\u2029'].contains c
  newline := rfl
  printable c low high := by
    rw [← Bool.not_eq_true, List.contains_iff_mem]
    intro h
    simp only [List.mem_cons, List.not_mem_nil, or_false] at h
    rcases h with rfl | rfl | rfl | rfl
    · exact absurd low (by decide)
    · exact absurd low (by decide)
    · exact absurd high (by decide)
    · exact absurd high (by decide)

/-- What closes a comment. -/
def closer : List Char := ['*', '/']

/-- How the interfaces start. -/
def interfaces : List Char := "export interface Imports".toList

/-- The line that says what the comment is about. -/
def heading : List Char := " * Imports resolved by the host runtime rather than the caller:".toList

/-- The line of an omitted import: its name in two parts, and its kind. -/
def item (i : Import) : List Char :=
  " * - ".toList ++ i.moduleName.toList ++ ['.'] ++ i.name.toList ++ " (".toList ++
    i.kind.space.label.toList ++ [')']

/-- A text in front of the interfaces is a comment and nothing else. The comment goes up to the
first closer behind its opening; its lines are a heading and one for each import, and before the
closer a blank. If there are no imports, there is no comment. -/
inductive Fenced (b : LineBreaks) : List Import → List Char → Prop
  | bare {text} (starts : interfaces <+: text) : Fenced b [] text
  | comment {omitted body behind} (some : omitted ≠ []) (first : ¬ closer <:+: body)
      (lines : body.splitOnP b.isBreak = [] :: heading :: omitted.map item ++ [[' ']])
      (follows : '\n' :: interfaces <+: behind) :
      Fenced b omitted ("/**".toList ++ (body ++ (closer ++ behind)))

/-- A name that neither closes a comment nor ends a line. -/
structure Harmless (b : LineBreaks) (name : String) : Prop where
  inside : ¬ closer <:+: name.toList
  unbroken : ∀ c ∈ name.toList, b.isBreak c = false

/-! ## Closers -/

theorem closer_infix_cons_iff {c : Char} {l : List Char} :
    closer <:+: c :: l ↔ (c = '*' ∧ l.head? = some '/') ∨ closer <:+: l := by
  rw [List.infix_cons_iff, closer, List.cons_prefix_cons]
  refine or_congr_left (and_congr eq_comm ?_)
  cases l with
  | nil => simp
  | cons d l => simp [List.cons_prefix_cons, eq_comm]

/-- A closer does not reach over a character that is no part of it. -/
theorem closer_infix_append_cons_iff {a b : List Char} {c : Char} (star : c ≠ '*')
    (slash : c ≠ '/') : closer <:+: a ++ c :: b ↔ closer <:+: a ∨ closer <:+: b := by
  induction a with
  | nil =>
    rw [List.nil_append, closer_infix_cons_iff]
    simp [star, closer]
  | cons d a ih =>
    have next : (a ++ c :: b).head? = some '/' ↔ a.head? = some '/' := by
      -- `c` does not complete a closer that starts at the end of `a`
      cases a with
      | nil => simp [slash]
      | cons => rfl
    rw [List.cons_append, closer_infix_cons_iff, closer_infix_cons_iff, ih, next, or_assoc]

/-- The line of an import has a closer exactly if its name has one. -/
theorem closer_infix_item_iff {i : Import} :
    closer <:+: item i ↔ closer <:+: i.moduleName.toList ∨ closer <:+: i.name.toList := by
  have front : ¬ closer <:+: [' ', '*', ' ', '-'] := by decide
  have back : ¬ closer <:+: '(' :: (i.kind.space.label.toList ++ [')']) := by
    cases i.kind.space <;> decide +kernel
  have split : item i = [' ', '*', ' ', '-'] ++ ' ' :: (i.moduleName.toList ++ '.' ::
      (i.name.toList ++ ' ' :: '(' :: (i.kind.space.label.toList ++ [')']))) := by
    -- a blank and a dot keep the names apart, so no closer is put together from two parts
    unfold item
    simp only [String.reduceToList, List.append_assoc, List.cons_append, List.nil_append]
  rw [split, closer_infix_append_cons_iff (by decide) (by decide),
    closer_infix_append_cons_iff (by decide) (by decide),
    closer_infix_append_cons_iff (by decide) (by decide)]
  simp [front, back]

theorem closer_infix_lines_iff {lines : List (List Char)} {last : List Char} :
    closer <:+: lines.flatMap (· ++ ['\n']) ++ last ↔
      (∃ line ∈ lines, closer <:+: line) ∨ closer <:+: last := by
  induction lines with
  | nil => simp
  | cons line lines ih =>
    rw [List.flatMap_cons, List.append_assoc, List.append_assoc, List.singleton_append,
      closer_infix_append_cons_iff (by decide) (by decide), ih]
    simp [or_assoc]

/-! ## Lines -/

/-- Lines without breaks in them are the lines of the text that they make up. -/
theorem splitOnP_lines (b : LineBreaks) {lines : List (List Char)} {last : List Char}
    (unbroken : ∀ line ∈ lines ++ [last], ∀ c ∈ line, b.isBreak c = false) :
    (lines.flatMap (· ++ ['\n']) ++ last).splitOnP b.isBreak = lines ++ [last] := by
  induction lines with
  | nil => exact List.splitOnP_eq_singleton (unbroken last (by simp))
  | cons line lines ih =>
    rw [List.flatMap_cons, List.append_assoc, List.append_assoc, List.singleton_append,
      List.splitOnP_append_cons_of_forall_mem (unbroken line (by simp)) '\n' b.newline,
      ih fun l hl => unbroken l (List.mem_cons_of_mem _ hl), List.cons_append]

/-- Lines are parts of the text, and the first one is a start of it. -/
theorem infix_of_splitOnP {p : Char → Bool} {text first : List Char} {others : List (List Char)}
    (h : text.splitOnP p = first :: others) :
    first <+: text ∧ ∀ line ∈ others, line <:+: text := by
  induction text generalizing first others with
  | nil =>
    cases h
    exact ⟨List.prefix_refl _, by simp⟩
  | cons c text ih =>
    obtain ⟨first', others', split⟩ := List.exists_cons_of_ne_nil (List.splitOnP_ne_nil p text)
    obtain ⟨start, parts⟩ := ih split
    rw [List.splitOnP_cons_eq_if_modifyHead, split] at h
    split at h
    · cases h
      refine ⟨List.nil_prefix, fun line hl => List.infix_cons ?_⟩
      -- the lines behind a break are those of the rest of the text
      rcases List.mem_cons.1 hl with rfl | hl
      · exact start.isInfix
      · exact parts line hl
    · cases h
      exact ⟨List.cons_prefix_cons.2 ⟨rfl, start⟩, fun line hl => List.infix_cons (parts line hl)⟩

/-- There is no break in a line. -/
theorem unbroken_of_splitOnP {p : Char → Bool} {text line : List Char}
    (h : line ∈ text.splitOnP p) : ∀ c ∈ line, p c = false := by
  induction text generalizing line with
  | nil =>
    rw [List.splitOnP_nil, List.mem_singleton] at h
    subst h
    simp
  | cons c text ih =>
    obtain ⟨first, others, split⟩ := List.exists_cons_of_ne_nil (List.splitOnP_ne_nil p text)
    rw [split] at ih
    rw [List.splitOnP_cons_eq_if_modifyHead, split] at h
    split at h
    · rcases List.mem_cons.1 h with rfl | h
      · simp
      · exact ih h
    · next plain =>
      rcases List.mem_cons.1 h with rfl | h
      · rw [List.forall_mem_cons]
        exact ⟨Bool.eq_false_iff.2 plain, ih List.mem_cons_self⟩
      · exact ih (List.mem_cons_of_mem _ h)

/-- The texts around the names are printable, so there is no break in them. -/
theorem LineBreaks.unbroken_of_printable (b : LineBreaks) (text : List Char)
    (h : text.all fun c => 32 ≤ c.toNat && c.toNat ≤ 126) : ∀ c ∈ text, b.isBreak c = false := by
  intro c hc
  have range := List.all_eq_true.1 h c hc
  rw [Bool.and_eq_true, decide_eq_true_iff, decide_eq_true_iff] at range
  exact b.printable c range.1 range.2

theorem Harmless.of_printable {b : LineBreaks} {name : String} (inside : ¬ closer <:+: name.toList)
    (h : name.toList.all fun c => 32 ≤ c.toNat && c.toNat ≤ 126) : Harmless b name :=
  ⟨inside, b.unbroken_of_printable _ h⟩

theorem unbroken_heading (b : LineBreaks) : ∀ c ∈ heading, b.isBreak c = false :=
  b.unbroken_of_printable _ (by decide +kernel)

/-- The line of an import is broken only in its name. -/
theorem unbroken_item_iff {b : LineBreaks} {i : Import} :
    (∀ c ∈ item i, b.isBreak c = false) ↔
      (∀ c ∈ i.moduleName.toList, b.isBreak c = false) ∧
        ∀ c ∈ i.name.toList, b.isBreak c = false := by
  have front := b.unbroken_of_printable " * - ".toList (by decide +kernel)
  have dot := b.unbroken_of_printable ['.'] (by decide)
  have gap := b.unbroken_of_printable " (".toList (by decide +kernel)
  have kind := b.unbroken_of_printable i.kind.space.label.toList
    (by cases i.kind.space <;> decide +kernel)
  have back := b.unbroken_of_printable [')'] (by decide)
  unfold item
  simp only [List.forall_mem_append]
  constructor
  · intro h
    obtain ⟨⟨⟨⟨⟨⟨_, moduleName⟩, _⟩, name⟩, _⟩, _⟩, _⟩ := h
    exact ⟨moduleName, name⟩
  · intro h
    exact ⟨⟨⟨⟨⟨⟨front, h.1⟩, dot⟩, h.2⟩, gap⟩, kind⟩, back⟩

/-! ## What is rendered -/

variable {b : LineBreaks} {surface : Surface} {mode : Mode}

/-- No text at all is fenced for a name that is not harmless. -/
theorem Fenced.harmless {omitted : List Import} {text : List Char} (h : Fenced b omitted text) :
    ∀ i ∈ omitted, Harmless b i.moduleName ∧ Harmless b i.name := by
  intro i hi
  cases h with
  | bare => cases hi
  | @comment _ body _ _ first lines =>
    -- the line of an import stands in the comment as it is, free of closers and breaks
    have line : item i ∈ heading :: omitted.map item ++ [[' ']] := by
      simp only [List.cons_append, List.mem_cons, List.mem_append, List.mem_map]
      exact .inr (.inl ⟨i, hi, rfl⟩)
    have inside : ¬ closer <:+: item i :=
      fun h => first (h.trans ((infix_of_splitOnP lines).2 _ line))
    have unbroken : ∀ c ∈ item i, b.isBreak c = false := by
      have member : item i ∈ body.splitOnP b.isBreak := by
        rw [lines]
        exact List.mem_cons_of_mem _ line
      exact unbroken_of_splitOnP member
    rw [closer_infix_item_iff, not_or] at inside
    rw [unbroken_item_iff] at unbroken
    exact ⟨⟨inside.1, unbroken.1⟩, ⟨inside.2, unbroken.2⟩⟩


/-- The comment up to where it is meant to be closed. -/
def commentBody (omitted : List Import) : List Char :=
  ([] :: heading :: omitted.map item).flatMap (· ++ ['\n']) ++ [' ']

theorem toList_itemLine (i : Import) :
    (s!" * - {omittedText i}" ++ "\n").toList = item i ++ ['\n'] := by
  unfold omittedText item
  simp only [String.toList_append, toString, String.reduceToList, List.append_assoc]

theorem toList_comment {omitted : List Import} (some : omitted ≠ []) :
    (comment omitted).toList =
      "/**".toList ++ (commentBody omitted ++ (closer ++ ['\n'])) := by
  have items : (lines (omitted.map fun i => s!" * - {omittedText i}")).toList =
      (omitted.map item).flatMap (· ++ ['\n']) := by
    unfold lines
    simp only [String.toList_join, List.flatMap_map, toList_itemLine]
  unfold comment
  rw [if_neg (by simpa using some)]
  simp only [String.toList_append, items]
  unfold commentBody closer heading
  simp only [String.reduceToList, List.flatMap_cons, List.append_assoc, List.cons_append,
    List.nil_append]

/-- Whatever the caller supplies, the text for it starts the same. -/
theorem interfaces_prefix_importsText (supplied : List Member) :
    interfaces <+: (importsText supplied).toList := by
  have none : "export interface Imports \x7b\x7d\n".toList =
      interfaces ++ " \x7b\x7d\n".toList := by
    unfold interfaces
    simp only [String.reduceToList, List.cons_append, List.nil_append]
  have some : "export interface Imports \x7b\n".toList = interfaces ++ " \x7b\n".toList := by
    unfold interfaces
    simp only [String.reduceToList, List.cons_append, List.nil_append]
  unfold importsText
  split
  · rw [none]
    exact List.prefix_append _ _
  · simp only [String.toList_append, List.append_assoc]
    rw [some, List.append_assoc]
    exact List.prefix_append _ _

/-- The comment is the first part of what is rendered, and the interfaces come next. -/
theorem exists_toList_render (surface : Surface) (mode : Mode) :
    ∃ behind, interfaces <+: behind ∧
      (render surface mode).toList = (comment surface.omitted).toList ++ behind := by
  unfold render
  simp only [String.toList_append, List.append_assoc]
  exact ⟨_, (interfaces_prefix_importsText _).trans (List.prefix_append _ _), rfl⟩

/-- The comment is fenced exactly if all names in it are harmless. -/
theorem fenced_render_iff : Fenced b surface.omitted (render surface mode).toList ↔
    ∀ i ∈ surface.omitted, Harmless b i.moduleName ∧ Harmless b i.name := by
  refine ⟨Fenced.harmless, fun harmless => ?_⟩
  obtain ⟨behind, starts, text⟩ := exists_toList_render surface mode
  rw [text]
  generalize surface.omitted = omitted at harmless
  rcases Decidable.em (omitted = []) with rfl | some
  · exact .bare starts
  · have inside : ¬ closer <:+: commentBody omitted := by
      have lines : ∀ line ∈ [] :: heading :: omitted.map item, ¬ closer <:+: line := by
        simp only [List.forall_mem_cons, List.forall_mem_map]
        refine ⟨by decide, by decide +kernel, fun i hi => ?_⟩
        rw [closer_infix_item_iff, not_or]
        exact ⟨(harmless i hi).1.inside, (harmless i hi).2.inside⟩
      unfold commentBody
      rw [closer_infix_lines_iff]
      intro h
      rcases h with ⟨line, hl, found⟩ | found
      · exact lines line hl found
      · exact absurd found (by decide)
    have split : (commentBody omitted).splitOnP b.isBreak =
        [] :: heading :: omitted.map item ++ [[' ']] := by
      refine splitOnP_lines b (List.forall_mem_append.2 ⟨?_, ?_⟩)
      · simp only [List.forall_mem_cons, List.forall_mem_map]
        refine ⟨by simp, unbroken_heading b, fun i hi => ?_⟩
        exact unbroken_item_iff.2 ⟨(harmless i hi).1.unbroken, (harmless i hi).2.unbroken⟩
      · exact List.forall_mem_singleton.2 (b.unbroken_of_printable _ (by decide))
    rw [toList_comment some]
    simp only [List.append_assoc]
    exact .comment some inside split (List.cons_prefix_cons.2 ⟨rfl, starts⟩)

end Declarations

namespace Module

/-- The imports that `Imports` leaves out: all but the functions of the caller's module. -/
def omitted (m : Module) : List Import :=
  m.imports.filter fun i => i.moduleName ≠ callerModule ∨ i.kind.space ≠ .function

theorem isNone_supplied?_iff {i : Import} :
    i.supplied?.isNone ↔ i.moduleName ≠ callerModule ∨ i.kind.space ≠ .function := by
  unfold Import.supplied?
  split
  · next same => cases i.kind <;> simp [same, ImportKind.signature?, ImportKind.space]
  · next different => simp [different]

theorem omitted_of_surface {m : Module} {surface : Surface} (h : m.surface = .ok surface) :
    surface.omitted = m.omitted := by
  obtain ⟨_, _, h⟩ := Outcome.bind_eq_ok_iff.1 h
  obtain ⟨_, _, h⟩ := Outcome.bind_eq_ok_iff.1 h
  cases h
  refine List.filter_congr fun i _ => ?_
  rw [Bool.eq_iff_iff, isNone_supplied?_iff, decide_eq_true_iff]

/-- **The declarations start with a proper comment exactly if no name of an omitted import breaks
out of it,** be it out of its line or out of the comment. -/
theorem declarations_fenced_iff {m : Module} {mode : Mode} {text : String}
    (b : Declarations.LineBreaks) (h : m.declarations mode = .ok text) :
    Declarations.Fenced b m.omitted text.toList ↔
      ∀ i ∈ m.omitted, Declarations.Harmless b i.moduleName ∧ Declarations.Harmless b i.name := by
  obtain ⟨surface, found, h⟩ := Outcome.bind_eq_ok_iff.1 h
  cases h
  rw [← omitted_of_surface found]
  exact Declarations.fenced_render_iff

/-- An import of a host function, as compilers write it, is listed in a proper comment. -/
theorem declarations_fenced_wasi : ∃ (m : Module) (text : String),
    m.imports = [⟨"wasi_snapshot_preview1", "fd_write", .function 0⟩] ∧
      m.declarations .async = .ok text ∧
        Declarations.Fenced .script m.omitted text.toList := by
  let i : Import := ⟨"wasi_snapshot_preview1", "fd_write", .function 0⟩
  let m : Module := { signatures := [⟨[.i32], []⟩], imports := [i] }
  have h : m.declarations .async = .ok (Declarations.render ⟨[], [], [i]⟩ .async) := rfl
  refine ⟨m, _, rfl, h, (declarations_fenced_iff .script h).2 ?_⟩
  have same : m.omitted = [i] := rfl
  rw [same, List.forall_mem_singleton]
  exact ⟨.of_printable (by decide +kernel) (by decide +kernel),
    .of_printable (by decide +kernel) (by decide +kernel)⟩

/-- A binary with a name that closes the comment and declares a constant behind it. -/
theorem decode_declarations_not_fenced : ∃ m text,
    decode (header ++ [
      0x02, 0x20, 0x01,
        0x03, 0x65, 0x6e, 0x76,
        0x17, 0x2a, 0x2f, 0x64, 0x65, 0x63, 0x6c, 0x61, 0x72, 0x65, 0x20, 0x63, 0x6f, 0x6e, 0x73,
          0x74, 0x20, 0x79, 0x3a, 0x20, 0x30, 0x3b, 0x2f, 0x2a,
        0x02, 0x00, 0x01]) = .ok m ∧
      m.declarations .sync = .ok text ∧
        ¬ Declarations.Fenced .newlines m.omitted text.toList := by
  let i : Import := ⟨"env", "*/declare const y: 0;/*", .memory ⟨1, none⟩⟩
  let m : Module := { imports := [i] }
  have h : m.declarations .sync = .ok (Declarations.render ⟨[], [], [i]⟩ .sync) := rfl
  refine ⟨m, _, ?_, h, fun fenced => ?_⟩
  · cbv
  · have same : m.omitted = [i] := rfl
    rw [same] at fenced
    exact (fenced.harmless i List.mem_cons_self).2.inside (by decide +kernel)

/-- Nothing is too much for a name: any code can be brought to stand behind the comment. -/
theorem exists_declarations_carrying (code : String) (mode : Mode) :
    ∃ (m : Module) (text : String) (body behind : List Char), m.declarations mode = .ok text ∧
      text.toList = "/**".toList ++ (body ++ (Declarations.closer ++ (code.toList ++ behind))) ∧
        ¬ Declarations.closer <:+: body := by
  let i : Import := ⟨"", "*/" ++ code, .memory ⟨0, none⟩⟩
  let m : Module := { imports := [i] }
  have h : m.declarations mode = .ok (Declarations.render ⟨[], [], [i]⟩ mode) := rfl
  obtain ⟨interfaces, _, text⟩ := Declarations.exists_toList_render ⟨[], [], [i]⟩ mode
  rw [Declarations.toList_comment (List.cons_ne_nil _ _)] at text
  have line : Declarations.item i =
      " * - .".toList ++ (Declarations.closer ++ (code.toList ++ " (memory)".toList)) := by
    have kind : i.kind.space.label.toList = "memory".toList := rfl
    unfold Declarations.item Declarations.closer
    rw [kind]
    simp only [i, String.toList_append, String.reduceToList, List.append_assoc, List.cons_append,
      List.nil_append]
  refine ⟨m, _, '\n' :: (Declarations.heading ++ '\n' :: " * - .".toList),
    " (memory)".toList ++ '\n' :: ' ' :: (Declarations.closer ++ '\n' :: interfaces), h, ?_, ?_⟩
  · rw [text]
    unfold Declarations.commentBody
    simp only [List.map_cons, List.map_nil, List.flatMap_cons, List.flatMap_nil, line,
      List.append_assoc, List.cons_append, List.nil_append]
  · decide +kernel

end Module

end WasmBindings
