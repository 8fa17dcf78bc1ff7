import WasmBindings.Proofs.Binary.Operations
import WasmBindings.Proofs.Binary.Relocation

/-!
# What a reader sees

Two cursors over any two buffers may show the same bytes between their positions. A reader that sees
no more than these, and counts places from where it starts, cannot tell the two apart: it gives the
same value and moves on by as many bytes, or it reports the same error, as far from where it started
(`Checked.Local`). What stands in front of a cursor or behind its end does not matter, nor does its
own place.

On windows this is what moving a window says, together with the bytes that are taken off it
(`Reader.local_iff`). By positions it follows from there, for a reader that works by positions does
what it does on the window (`Checked.Simulates.isLocal`).
-/

namespace WasmBindings

theorem FormatError.moved_moved (m n : Nat) (e : FormatError) :
    (e.moved m).moved n = e.moved (m + n) := by
  cases e <;> simp only [moved, Nat.add_assoc]

/-! ## Windows -/

namespace Reader

/-- From two places a reader gives the same and moves on by as many bytes, or it reports the same
error, as far from where it started. -/
inductive Alike (r : Reader α) (c₁ c₂ : Cursor) : Prop
  | read {a : α} {size : Nat} (enough : size ≤ c₁.remaining)
      (first : r c₁ = .ok (a, c₁.advance size)) (second : r c₂ = .ok (a, c₂.advance size))
  | failed {e : FormatError} (first : r c₁ = .error (e.moved c₁.offset))
      (second : r c₂ = .error (e.moved c₂.offset))

/-- A reader that sees its window only, and counts places from where it starts. -/
def Local (r : Reader α) : Prop := ∀ c₁ c₂ : Cursor, c₁.window = c₂.window → Alike r c₁ c₂

variable {r : Reader α}

/-- A reader that takes bytes off its window, and that can be moved, sees its window only. -/
theorem isLocal_of_moves {R : Reading α} (moves : ∀ distance, Moves distance id r r)
    (takes : Takes r R) : Local r := by
  intro c₁ c₂ same
  obtain ⟨first, window⟩ := c₁
  obtain ⟨second, _⟩ := c₂
  obtain rfl : window = _ := same
  -- each cursor is the window at the start of a binary, moved to its place
  have moved : ∀ place, r ⟨place, window⟩ =
      ((r ⟨0, window⟩).map fun p => (p.1, p.2.moved place)).mapError (·.moved place) := by
    intro place
    have run := moves place ⟨0, window⟩
    rwa [Cursor.moved, Nat.zero_add] at run
  cases start : r ⟨0, window⟩ with
  | error e =>
    rw [start] at moved
    exact .failed (moved first) (moved second)
  | ok p =>
    rw [start] at moved
    obtain ⟨taken, _, split, offset⟩ := takes _ _ _ start
    dsimp only at split offset
    have read : ∀ place, r ⟨place, window⟩ =
        .ok (p.1, Cursor.advance ⟨place, window⟩ taken.length) := by
      intro place
      rw [moved place, Cursor.advance, split, List.drop_left, Nat.add_comm]
      change Except.ok (p.1, Cursor.mk (p.2.offset + place) p.2.window) = _
      rw [offset, Nat.zero_add]
    have enough : taken.length ≤ window.length := by
      rw [split, List.length_append]
      exact Nat.le_add_right _ _
    exact .read enough (read first) (read second)

theorem Local.moves (h : Local r) (distance : Nat) : Moves distance id r r := by
  intro c
  cases h c (c.moved distance) rfl with
  | @read a size _ first second =>
    rw [first, second]
    change Except.ok (a, Cursor.mk (c.offset + distance + size) (c.window.drop size)) =
      .ok (a, Cursor.mk (c.offset + size + distance) (c.window.drop size))
    rw [Nat.add_right_comm]
  | @failed e first second =>
    rw [first, second]
    change Except.error (e.moved (c.offset + distance)) = .error ((e.moved c.offset).moved distance)
    rw [FormatError.moved_moved]

theorem Local.takes (h : Local r) : Takes r fun _ _ _ => True := by
  intro c a c' run
  cases h c c rfl with
  | @read b size enough first =>
    rw [run] at first
    cases first
    refine ⟨c.window.take size, trivial, (List.take_append_drop _ _).symm, ?_⟩
    rw [List.length_take_of_le enough]
    rfl
  | failed first =>
    rw [run] at first
    cases first

/-- **Seeing a window only is to be movable and to take bytes off it.** -/
theorem local_iff :
    Local r ↔ (∀ distance, Moves distance id r r) ∧ Takes r fun _ _ _ => True :=
  ⟨fun h => ⟨h.moves, h.takes⟩, fun h => isLocal_of_moves h.1 h.2⟩

/-- A vector is local if its items are. -/
protected theorem Local.vector (h : Local r) : Local (Reader.vector r) :=
  isLocal_of_moves (fun distance => (h.moves distance).vector) h.takes.vector

end Reader

/-! ## Positions -/

namespace Checked

/-- From two cursors a reader gives the same and moves on by as many bytes, or it reports the same
error, as far from where it started. -/
inductive Alike (x : Reader α) (c₁ c₂ : Cursor) : Prop
  | read {a : α} {size : Nat} (enough : c₁.pos + size ≤ c₁.stop)
      (first : x c₁ = .ok (a, { c₁ with pos := c₁.pos + size }))
      (second : x c₂ = .ok (a, { c₂ with pos := c₂.pos + size }))
  | failed {e : FormatError} (first : x c₁ = .error (.fault (e.moved c₁.pos)))
      (second : x c₂ = .error (.fault (e.moved c₂.pos)))

/-- A reader that sees nothing of a buffer but what stands between the positions of its cursor, and
counts places from where it starts. -/
def Local (x : Reader α) : Prop :=
  ∀ c₁ c₂ : Cursor, c₁.InBounds → c₂.InBounds → c₁.view.window = c₂.view.window → Alike x c₁ c₂

/-- A reader that takes nothing stays where it is. -/
theorem Alike.nothing {x : Reader α} {c₁ c₂ : Cursor} {a : α} (within : c₁.InBounds)
    (first : x c₁ = .ok (a, c₁)) (second : x c₂ = .ok (a, c₂)) : Alike x c₁ c₂ := by
  have enough : c₁.pos + 0 ≤ c₁.stop := within.1
  exact .read enough first second

/-- Where a reader stops by positions is known from where it stops on the window. -/
theorem Simulates.eq_ok {x : Reader α} {r : WasmBindings.Reader α} (h : Simulates Eq x r)
    {c : Cursor} (within : c.InBounds) {a : α} {size : Nat}
    (run : r c.view = .ok (a, c.view.advance size)) :
    x c = .ok (a, { c with pos := c.pos + size }) := by
  rcases h c within with ⟨b, _, c', on, rfl, hx, hr⟩ | ⟨e, _, hr⟩
  · rw [run] at hr
    injection hr with pair
    injection pair with value stop
    obtain rfl : a = b := value
    have pos : c.pos + size = c'.pos := congrArg WasmBindings.Cursor.offset stop
    rw [hx, pos, ← on.buffer, ← on.stop]
  · rw [run] at hr
    cases hr

theorem Simulates.eq_error {x : Reader α} {r : WasmBindings.Reader α} (h : Simulates Eq x r)
    {c : Cursor} (within : c.InBounds) {e : FormatError} (run : r c.view = .error e) :
    x c = .error (.fault e) := by
  rcases h c within with ⟨_, _, _, _, _, _, hr⟩ | ⟨e', hx, hr⟩
  · rw [run] at hr
    cases hr
  · rw [run] at hr
    cases hr
    exact hx

/-- By positions a reader sees no more than on the window. -/
theorem Simulates.isLocal {x : Reader α} {r : WasmBindings.Reader α} (h : Simulates Eq x r)
    (onWindows : r.Local) : Local x := by
  intro c₁ c₂ within₁ within₂ same
  cases onWindows c₁.view c₂.view same with
  | read enough first second =>
    exact .read (within₁.enough_iff.1 enough) (h.eq_ok within₁ first) (h.eq_ok within₂ second)
  | failed first second =>
    exact .failed (h.eq_error within₁ first) (h.eq_error within₂ second)

/-- Between the same positions there are as many bytes. -/
theorem Cursor.InBounds.enough_of_same {c₁ c₂ : Cursor} (within₁ : c₁.InBounds)
    (within₂ : c₂.InBounds) (same : c₁.view.window = c₂.view.window) {size : Nat}
    (enough : c₁.pos + size ≤ c₁.stop) : c₂.pos + size ≤ c₂.stop := by
  refine within₂.enough_iff.1 ?_
  rw [WasmBindings.Cursor.remaining, ← same]
  exact within₁.enough_iff.2 enough

namespace Local

protected theorem pure (a : α) : Local (pure a) :=
  fun _ _ within _ _ => .nothing within rfl rfl

/-- In a sequence, each part counts places from where it starts, and so does the whole. -/
protected theorem bind {x : Reader α} {f : α → Reader β} (first : Local x)
    (second : ∀ a, Local (f a)) : Local (x >>= f) := by
  intro c₁ c₂ within₁ within₂ same
  have run : ∀ c, (x >>= f) c = x c >>= fun p => f p.1 p.2 := fun _ => rfl
  cases first c₁ c₂ within₁ within₂ same with
  | @failed e fails fails' => exact .failed (by rw [run, fails]; rfl) (by rw [run, fails']; rfl)
  | @read a size enough reads reads' =>
    have enough' := within₁.enough_of_same within₂ same enough
    have behind : (Cursor.view { c₁ with pos := c₁.pos + size }).window =
        (Cursor.view { c₂ with pos := c₂.pos + size }).window := by
      rw [c₁.view_advance, c₂.view_advance]
      exact congrArg (·.drop size) same
    have next₁ : (x >>= f) c₁ = f a { c₁ with pos := c₁.pos + size } := by
      rw [run, reads]
      rfl
    have next₂ : (x >>= f) c₂ = f a { c₂ with pos := c₂.pos + size } := by
      rw [run, reads']
      rfl
    cases second a { c₁ with pos := c₁.pos + size } { c₂ with pos := c₂.pos + size }
      ⟨enough, within₁.2⟩ ⟨enough', within₂.2⟩ behind with
    | read more reads reads' =>
      dsimp only at more reads reads'
      rw [Nat.add_assoc] at more reads reads'
      exact .read more (next₁.trans reads) (next₂.trans reads')
    | @failed e fails fails' =>
      have from_start : ∀ place, e.moved (place + size) = (e.moved size).moved place := by
        intro place
        rw [FormatError.moved_moved, Nat.add_comm]
      dsimp only at fails fails'
      rw [from_start] at fails fails'
      exact .failed (next₁.trans fails) (next₂.trans fails')

protected theorem remaining : Local remaining := by
  intro c₁ c₂ within₁ within₂ same
  have left : c₂.view.remaining = c₁.view.remaining := congrArg List.length same.symm
  exact .nothing within₁ (remaining_run within₁) (left ▸ remaining_run within₂)

protected theorem times {x : Reader α} (h : Local x) (count : Nat) : Local (times x count) := by
  induction count with
  | zero => exact .pure []
  | succ count ih => exact h.bind fun first => ih.bind fun rest => .pure (first :: rest)

end Local

/-- A reader in both of its forms, by positions and on windows, which sees its window only in
both. -/
structure Confined (x : Reader α) (r : WasmBindings.Reader α) : Prop where
  same : Simulates Eq x r
  byPositions : Local x
  onWindows : r.Local

namespace Confined

/-- A reader that accepts the bytes of some spelling, and that can be moved, is confined. -/
theorem of_accepts {x : Reader α} {r : WasmBindings.Reader α} {S : Spelling α}
    (same : Simulates Eq x r) (moves : ∀ distance, Reader.Moves distance id r r)
    (accepts : Reader.Accepts r S) : Confined x r :=
  have onWindows := Reader.isLocal_of_moves moves accepts.takes
  ⟨same, same.isLocal onWindows, onWindows⟩

protected theorem byte : Confined byte Reader.byte := of_accepts .byte (fun _ => .byte) .byte

protected theorem bytes (count : Nat) : Confined (bytes count) (Reader.bytes count) :=
  of_accepts (.bytes count) (fun _ => .bytes count) (.bytes count)

protected theorem skip (count : Nat) : Confined (skip count) (Reader.skip count) :=
  of_accepts (.skip count) (fun _ => (Reader.Moves.bytes count).map fun _ => ())
    ((Reader.Accepts.bytes count).map fun _ => ())

protected theorem word : Confined word Reader.word :=
  of_accepts .word (fun _ => (Reader.Moves.bytes 4).map _) .word

protected theorem u32 : Confined u32 Reader.u32 := of_accepts .u32 (fun _ => .u32) .u32

protected theorem u64 : Confined u64 Reader.u64 := of_accepts .u64 (fun _ => .u64) .u64

protected theorem name : Confined name Reader.name := of_accepts .name (fun _ => .name) .name

protected theorem vector {x : Reader α} {r : WasmBindings.Reader α} (h : Confined x r) :
    Confined (vector x) (Reader.vector r) :=
  ⟨h.same.vector, h.same.vector.isLocal h.onWindows.vector, h.onWindows.vector⟩

protected theorem signature : Confined signature Reader.signature :=
  of_accepts .signature (fun _ => .signature) .signature

protected theorem importEntry : Confined importEntry Reader.importEntry :=
  of_accepts .importEntry (fun _ => .importEntry) .importEntry

protected theorem table : Confined table Reader.table :=
  of_accepts .table (fun _ => .table) .table

protected theorem limits : Confined limits Reader.limits :=
  of_accepts .limits (fun _ => .limits) .limits

protected theorem exportEntry : Confined exportEntry Reader.exportEntry :=
  of_accepts .exportEntry (fun _ => .exportEntry) .exportEntry

end Confined

/-- A vector is local if its items are, whatever they are. -/
protected theorem Local.vector {x : Reader α} (h : Local x) : Local (vector x) :=
  Confined.u32.byPositions.bind fun count => Local.remaining.bind fun _ => h.times count.toNat

/-! ## Parts and sections -/

/-- On a part that is split off, a local reader depends on the bytes of the part only. -/
theorem Local.alike_of_split {x : Reader α} (h : Local x) {c₁ c₂ : Cursor}
    (within₁ : c₁.InBounds) (within₂ : c₂.InBounds) {count : Nat}
    (enough₁ : c₁.pos + count ≤ c₁.stop) (enough₂ : c₂.pos + count ≤ c₂.stop)
    (same : c₁.view.window.take count = c₂.view.window.take count) :
    ∃ part₁ part₂ rest₁ rest₂, split count c₁ = .ok (part₁, rest₁) ∧
      split count c₂ = .ok (part₂, rest₂) ∧ Alike x part₁ part₂ := by
  have room₁ := within₁.enough_iff.2 enough₁
  have room₂ := within₂.enough_iff.2 enough₂
  refine ⟨_, _, _, _, (within₁.serves.splits count enough₁).1,
    (within₂.serves.splits count enough₂).1,
    h _ _ (within₁.inBounds_bounded room₁) (within₂.inBounds_bounded room₂) ?_⟩
  rw [within₁.view_bounded room₁, within₂.view_bounded room₂]
  exact same

/-- Bytes between others are in bounds for a cursor in front of them. -/
theorem Cursor.inBounds_between (before bytes after : Bytes) : Cursor.InBounds
    ⟨before ++ bytes ++ after, before.length, (before ++ bytes ++ after).length⟩ := by
  refine ⟨?_, Nat.le_refl _⟩
  rw [List.append_assoc, List.length_append]
  exact Nat.le_add_right _ _

theorem Cursor.view_between (before bytes after : Bytes) :
    Cursor.view ⟨before ++ bytes ++ after, before.length, (before ++ bytes ++ after).length⟩ =
      ⟨before.length, bytes ++ after⟩ := by
  simp only [Cursor.view, List.take_length, List.append_assoc, List.drop_left]

/-- Where a section stands moves its frame and changes nothing else about it. -/
theorem frame_of_spelledBy {s : RawSection} {bytes : Bytes} (spelled : s.SpelledBy bytes) :
    ∃ g : WasmBindings.Frame, g.offset = 0 ∧ g.id = s.id ∧ g.size = s.payload.length ∧
      ∀ place after, Reader.frame ⟨place, bytes ++ after⟩ =
        .ok (g.moved place, ⟨place + bytes.length, after⟩) := by
  obtain ⟨size, number, rfl⟩ := spelled
  refine ⟨⟨0, s.id, ⟨1 + size.length, s.payload⟩⟩, rfl, rfl, rfl, fun place after => ?_⟩
  refine Reader.frame_eq_ok_iff.2 ⟨size, number, ?_, ?_, ?_, ?_⟩
  · simp only [List.cons_append, List.append_assoc, WasmBindings.Frame.moved,
      WasmBindings.Cursor.moved]
  · exact Nat.zero_add place
  · exact Nat.add_comm _ _
  · rw [List.length_cons, List.length_append]
    simp only [WasmBindings.Frame.moved, WasmBindings.Cursor.moved]
    omega

/-- A section is cut out and read in the same way wherever it stands in a buffer. -/
theorem contents_anywhere {s : RawSection} {bytes : Bytes} (spelled : s.SpelledBy bytes)
    (kind : SectionKind) : ∃ outcome : Except FormatError Contents, ∀ before after,
      ∃ f rest, frame ⟨before ++ bytes ++ after, before.length,
          (before ++ bytes ++ after).length⟩ = .ok (f, rest) ∧
        f.offset = before.length ∧ f.id = s.id ∧ f.size = s.payload.length ∧
        rest.pos = before.length + bytes.length ∧
        f.contents kind = outcome.mapError fun e => .fault (e.moved before.length) := by
  obtain ⟨g, start, id, size, cut⟩ := frame_of_spelledBy spelled
  refine ⟨g.contents kind, fun before after => ?_⟩
  have within := Cursor.inBounds_between before bytes after
  have cut := cut before.length after
  rw [← Cursor.view_between] at cut
  rcases Simulates.frame _ within with ⟨f, _, rest, _, ⟨sound, rfl⟩, hx, hr⟩ | ⟨e, _, hr⟩
  · rw [cut] at hr
    injection hr with pair
    injection pair with view stop
    have offset : (g.moved before.length).offset = f.offset :=
      congrArg WasmBindings.Frame.offset view
    have stop : before.length + bytes.length = rest.pos :=
      congrArg WasmBindings.Cursor.offset stop
    refine ⟨f, rest, hx, ?_, ?_, ?_, stop.symm, ?_⟩
    · rw [← offset, WasmBindings.Frame.moved, start]
      exact Nat.zero_add _
    · rw [← id]
      exact congrArg WasmBindings.Frame.id view.symm
    · rw [← sound.size_view, ← view, ← size]
      rfl
    · rw [sound.contents_eq, ← view, WasmBindings.Frame.contents_moved]
      cases g.contents kind <;> rfl
  · rw [cut] at hr
    cases hr

/-- **A reader sees its window only, and reports places from where it starts.** So do the vectors of
any items of which this holds; a part that is split off is read without regard to what lies beyond
it; and a section is read in the same way at every place. -/
theorem readers_confined_to_windows :
    (Confined byte Reader.byte ∧ Confined word Reader.word ∧ Confined u32 Reader.u32 ∧
      Confined u64 Reader.u64 ∧ Confined name Reader.name ∧
      (∀ count, Confined (bytes count) (Reader.bytes count)) ∧
      ∀ count, Confined (skip count) (Reader.skip count)) ∧
    (∀ (α : Type) (x : Reader α), Local x → Local (vector x)) ∧
    (∀ (α : Type) (r : WasmBindings.Reader α), r.Local → (Reader.vector r).Local) ∧
    (Confined (vector signature) Reader.signatures ∧
      Confined (vector importEntry) Reader.imports ∧ Confined (vector u32) Reader.functions ∧
      Confined (vector table) Reader.tables ∧ Confined (vector limits) Reader.memories ∧
      Confined (vector exportEntry) Reader.exports) ∧
    (∀ (α : Type) (x : Reader α), Local x → ∀ c₁ c₂ : Cursor, c₁.InBounds → c₂.InBounds →
      ∀ count, c₁.pos + count ≤ c₁.stop → c₂.pos + count ≤ c₂.stop →
        c₁.view.window.take count = c₂.view.window.take count →
        ∃ part₁ part₂ rest₁ rest₂, split count c₁ = .ok (part₁, rest₁) ∧
          split count c₂ = .ok (part₂, rest₂) ∧ Alike x part₁ part₂) ∧
    ∀ (s : RawSection) bytes, s.SpelledBy bytes → ∀ kind,
      ∃ outcome : Except FormatError Contents, ∀ before after,
        ∃ f rest, frame ⟨before ++ bytes ++ after, before.length,
            (before ++ bytes ++ after).length⟩ = .ok (f, rest) ∧
          f.offset = before.length ∧ f.id = s.id ∧ f.size = s.payload.length ∧
          rest.pos = before.length + bytes.length ∧
          f.contents kind = outcome.mapError fun e => .fault (e.moved before.length) :=
  ⟨⟨.byte, .word, .u32, .u64, .name, .bytes, .skip⟩, fun _ _ h => h.vector,
    fun _ _ h => h.vector,
    ⟨.vector .signature, .vector .importEntry, .vector .u32, .vector .table, .vector .limits,
      .vector .exportEntry⟩,
    fun _ _ h _ _ within₁ within₂ _ => h.alike_of_split within₁ within₂,
    fun _ _ => contents_anywhere⟩

/-- A vector of one byte in the middle of one buffer and at the end of another, a part of one byte
split off these, and a custom section whose name is missing. -/
theorem readers_confined_to_windows_middle :
    (Local byte ∧ Reader.byte.Local) ∧
    (Alike (vector byte) ⟨[9, 1, 2, 3], 1, 3⟩ ⟨[7, 7, 7, 1, 2], 3, 5⟩ ∧
      (Reader.vector Reader.byte).Alike ⟨1, [1, 2]⟩ ⟨3, [1, 2]⟩) ∧
    (∃ part₁ part₂ rest₁ rest₂, split 1 ⟨[9, 1, 2, 3], 1, 3⟩ = .ok (part₁, rest₁) ∧
      split 1 ⟨[7, 7, 7, 1, 5], 3, 5⟩ = .ok (part₂, rest₂) ∧ Alike byte part₁ part₂) ∧
    RawSection.SpelledBy ⟨0, []⟩ [0, 0] ∧
      ∃ outcome : Except FormatError Contents, ∃ f rest,
        frame ⟨[7, 0, 0, 7], 1, 4⟩ = .ok (f, rest) ∧ f.offset = 1 ∧
          f.contents .custom = outcome.mapError fun e => .fault (e.moved 1) := by
  obtain ⟨⟨isByte, _⟩, vectors, vectors', _, parts, sections⟩ := readers_confined_to_windows
  have first : Cursor.InBounds ⟨[9, 1, 2, 3], 1, 3⟩ := by decide
  have second : Cursor.InBounds ⟨[7, 7, 7, 1, 2], 3, 5⟩ := by decide
  have third : Cursor.InBounds ⟨[7, 7, 7, 1, 5], 3, 5⟩ := by decide
  have spelled : RawSection.SpelledBy ⟨0, []⟩ [0, 0] :=
    ⟨[0], Leb128.spelledBy_singleton 0 (by decide), rfl⟩
  refine ⟨⟨isByte.byPositions, isByte.onWindows⟩,
    ⟨vectors UInt8 byte isByte.byPositions _ _ first second rfl,
      vectors' UInt8 Reader.byte isByte.onWindows _ _ rfl⟩,
    parts UInt8 byte isByte.byPositions _ _ first third 1 (by decide) (by decide) rfl, spelled, ?_⟩
  obtain ⟨outcome, placed⟩ := sections ⟨0, []⟩ [0, 0] spelled .custom
  obtain ⟨f, rest, cut, offset, _, _, _, said⟩ := placed [7] [7]
  exact ⟨outcome, f, rest, cut, offset, said⟩

end Checked

end WasmBindings
