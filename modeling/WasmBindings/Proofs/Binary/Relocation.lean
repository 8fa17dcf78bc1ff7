import WasmBindings.Proofs.Binary.Prefix

/-!
# Moving bytes within a binary

A reader sees its window and nothing else of the binary. Where the window stands shows only in what
it reports: offsets in errors, and the places of parts that are cut off. So moving a window moves
these and changes nothing else (`Reader.Moves`). One lemma for each way to put readers together
carries this from the single byte up to the payloads of sections, and from there to a row of
sections (`Draft.sections_moved`).
-/

namespace WasmBindings

/-- The same bytes, some distance further on. -/
def Cursor.moved (distance : Nat) (c : Cursor) : Cursor := ⟨c.offset + distance, c.window⟩

/-- The same section, some distance further on. -/
def Frame.moved (distance : Nat) (f : Frame) : Frame :=
  ⟨f.offset + distance, f.id, f.payload.moved distance⟩

/-- The same error, some distance further on if it points at a place. -/
def FormatError.moved (distance : Nat) : FormatError → FormatError
  | unexpectedEnd offset needed => unexpectedEnd (offset + distance) needed
  | integerTooLong offset => integerTooLong (offset + distance)
  | integerTooLarge offset => integerTooLarge (offset + distance)
  | malformedUtf8 offset => malformedUtf8 (offset + distance)
  | unknownSection id offset => unknownSection id (offset + distance)
  | sectionOutOfOrder id offset => sectionOutOfOrder id (offset + distance)
  | badTypeForm form offset => badTypeForm form (offset + distance)
  | badKind role tag offset => badKind role tag (offset + distance)
  | badLimits flags offset => badLimits flags (offset + distance)
  | e@(badMagic ..) | e@(unknownVersion ..) | e@(sectionSizeMismatch ..) |
    e@(unknownSignature ..) | e@(unknownExportIndex ..) | e@(functionBodyMismatch ..) => e

/-! ## Readers -/

namespace Reader

/-- On a moved window, the second reader does what the first does on the window in its place; what
it gives is changed by `carry`, and its errors are moved as well. -/
def Moves (distance : Nat) (carry : α → β) (r : Reader α) (s : Reader β) : Prop :=
  ∀ c, s (c.moved distance) =
    ((r c).map fun p => (carry p.1, p.2.moved distance)).mapError (·.moved distance)

namespace Moves

variable {distance : Nat}

protected theorem pure (a : α) : Moves distance id (pure a) (pure a) := fun _ => rfl

protected theorem throw (e : FormatError) :
    Moves distance id (throw e : Reader α) (throw (e.moved distance)) := fun _ => rfl

/-- In a sequence, the second parts have to agree on what the first ones give. -/
protected theorem bind {r : Reader α} {s : Reader α'} {f : α → Reader β} {g : α' → Reader β'}
    {carry : α → α'} {carry' : β → β'} (first : Moves distance carry r s)
    (second : ∀ a, Moves distance carry' (f a) (g (carry a))) :
    Moves distance carry' (r >>= f) (s >>= g) := by
  intro c
  change (s (c.moved distance) >>= fun p => g p.1 p.2) =
    ((r c >>= fun p => f p.1 p.2).map _).mapError _
  rw [first c]
  cases r c with
  | error e => rfl
  | ok p => exact second p.1 p.2

protected theorem map {r s : Reader α} (h : Moves distance id r s) (f : α → β) :
    Moves distance id (r >>= fun a => pure (f a)) (s >>= fun a => pure (f a)) :=
  h.bind fun a => Moves.pure (f a)

protected theorem ite {r r' : Reader α} {s s' : Reader β} {carry : α → β} {p : Prop}
    [Decidable p] (yes : Moves distance carry r s) (no : Moves distance carry r' s') :
    Moves distance carry (if p then r else r') (if p then s else s') := by
  split <;> assumption

protected theorem offset : Moves distance (· + distance) Reader.offset Reader.offset :=
  fun _ => rfl

protected theorem byte : Moves distance id Reader.byte Reader.byte := by
  intro c
  obtain ⟨offset, window⟩ := c
  cases window with
  | nil => rfl
  | cons b rest =>
    -- the byte behind the next one stands the same distance further on
    change Except.ok (b, Cursor.mk (offset + distance + 1) rest) =
      .ok (b, ⟨offset + 1 + distance, rest⟩)
    rw [Nat.add_right_comm]

/-- A part of known size is cut off where the window stands. -/
theorem sized {part : Cursor → α} {r : Reader α} {carry : α → α} {count : Nat}
    (run : ∀ c, r c = if count ≤ c.remaining then .ok (part c, c.advance count)
      else .error (c.tooShort count))
    (same : ∀ c : Cursor, part (c.moved distance) = carry (part c)) :
    Moves distance carry r r := by
  intro c
  have behind : (c.moved distance).advance count = (c.advance count).moved distance := by
    simp only [Cursor.advance, Cursor.moved, Nat.add_right_comm]
  rw [run c, run (c.moved distance), same, behind]
  change (if count ≤ c.remaining then _ else _) = _
  split <;> rfl

protected theorem bytes (count : Nat) :
    Moves distance id (Reader.bytes count) (Reader.bytes count) :=
  sized (fun _ => rfl) fun _ => rfl

protected theorem window (count : Nat) :
    Moves distance (Cursor.moved distance) (Reader.window count) (Reader.window count) :=
  sized (fun _ => rfl) fun _ => rfl

protected theorem skipRest : Moves distance id Reader.skipRest Reader.skipRest := by
  intro c
  change Except.ok ((), (c.moved distance).advance c.remaining) =
    .ok ((), (c.advance c.remaining).moved distance)
  simp only [Cursor.advance, Cursor.moved, Nat.add_right_comm]

/-- An integer blames the place where it starts, which moves with the window. -/
protected theorem groups (start bits : Nat) :
    Moves distance id (Leb128.groups start bits) (Leb128.groups (start + distance) bits) := by
  induction bits using Nat.strongRecOn with
  | ind bits ih =>
    unfold Leb128.groups
    split
    · next bits =>
      exact Moves.byte.bind fun b => (Moves.pure _).ite ((ih (bits + 1) (by omega)).map _)
    · exact Moves.byte.bind fun b => (Moves.throw (.integerTooLong start)).ite
        ((Moves.throw (.integerTooLarge start)).ite (Moves.pure _))

protected theorem read (bits : Nat) :
    Moves distance id (Leb128.read bits) (Leb128.read bits) :=
  Moves.offset.bind fun start => Moves.groups start bits

protected theorem u32 : Moves distance id Reader.u32 Reader.u32 := (Moves.read 32).map _

protected theorem u64 : Moves distance id Reader.u64 Reader.u64 := (Moves.read 64).map _

/-- Bytes that are no text are blamed where they start. -/
protected theorem text (start : Nat) (raw : Bytes) :
    Moves distance id (Reader.text start raw) (Reader.text (start + distance) raw) := by
  unfold Reader.text
  cases Utf8.decode? raw with
  | some text => exact Moves.pure text
  | none => exact Moves.throw (.malformedUtf8 start)

protected theorem name : Moves distance id Reader.name Reader.name :=
  Moves.u32.bind fun size => Moves.offset.bind fun start =>
    (Moves.bytes size.toNat).bind fun raw => Moves.text start raw

protected theorem times {r : Reader α} (h : Moves distance id r r) (count : Nat) :
    Moves distance id (Reader.times r count) (Reader.times r count) := by
  induction count with
  | zero => exact Moves.pure []
  | succ count ih => exact h.bind fun first => ih.map fun rest => first :: rest

protected theorem vector {r : Reader α} (h : Moves distance id r r) :
    Moves distance id (Reader.vector r) (Reader.vector r) :=
  Moves.u32.bind fun count => h.times count.toNat

/-! ## Entries -/

protected theorem valueType : Moves distance id Reader.valueType Reader.valueType :=
  Moves.byte.map ValueType.ofTag

protected theorem signature : Moves distance id Reader.signature Reader.signature :=
  Moves.offset.bind fun start => Moves.byte.bind fun form =>
    (Moves.throw (.badTypeForm form start)).ite
      (Moves.valueType.vector.bind fun parameters =>
        Moves.valueType.vector.map fun results => Signature.mk parameters results)

protected theorem bound (wide : Bool) :
    Moves distance id (Reader.bound wide) (Reader.bound wide) :=
  Moves.u64.ite (Moves.u32.map UInt32.toUInt64)

protected theorem limits : Moves distance id Reader.limits Reader.limits :=
  Moves.offset.bind fun start => Moves.byte.bind fun flags =>
    (Moves.throw (.badLimits flags start)).ite
      ((Moves.bound _).bind fun min => (Moves.pure _).ite
        ((Moves.bound _).map fun max => Limits.mk min (some max)))

protected theorem table : Moves distance id Reader.table Reader.table :=
  Moves.byte.bind fun element => Moves.limits.map (TableType.mk element)

protected theorem globalType : Moves distance id Reader.globalType Reader.globalType :=
  Moves.valueType.bind fun _ => Moves.offset.bind fun start => Moves.byte.bind fun tag =>
    (Moves.pure _).ite ((Moves.pure _).ite (Moves.throw (.badKind .mutability tag start)))

protected theorem importKind : Moves distance id Reader.importKind Reader.importKind :=
  Moves.offset.bind fun start => Moves.byte.bind fun tag =>
    (Moves.u32.map ImportKind.function).ite ((Moves.table.map ImportKind.table).ite
      ((Moves.limits.map ImportKind.memory).ite ((Moves.globalType.map ImportKind.global).ite
        (Moves.throw (.badKind .importKind tag start)))))

protected theorem importEntry : Moves distance id Reader.importEntry Reader.importEntry :=
  Moves.name.bind fun moduleName => Moves.name.bind fun name =>
    Moves.importKind.map (Import.mk moduleName name)

/-- A tag that is no kind of export is blamed where it stands. -/
protected theorem exportOf (name : String) (start : Nat) (tag : UInt8) (index : UInt32) :
    Moves distance id (Reader.exportOf name start tag index)
      (Reader.exportOf name (start + distance) tag index) := by
  unfold Reader.exportOf
  cases exportSpace? tag with
  | some space => exact Moves.pure _
  | none => exact Moves.throw (.badKind .exportKind tag start)

protected theorem exportEntry : Moves distance id Reader.exportEntry Reader.exportEntry :=
  Moves.name.bind fun name => Moves.offset.bind fun start => Moves.byte.bind fun tag =>
    Moves.u32.bind fun index => Moves.exportOf name start tag index

/-! ## Sections -/

protected theorem countOnly : Moves distance id Reader.countOnly Reader.countOnly :=
  Moves.u32.bind fun count => Moves.skipRest.map fun _ => count

protected theorem contents (kind : SectionKind) :
    Moves distance id (Reader.contents kind) (Reader.contents kind) := by
  cases kind with
  | custom => exact Moves.name.bind fun name => Moves.skipRest.map fun _ => Contents.custom name
  | signatures => exact Moves.signature.vector.map Contents.signatures
  | imports => exact Moves.importEntry.vector.map Contents.imports
  | functions => exact Moves.u32.vector.map Contents.functions
  | tables => exact Moves.table.vector.map Contents.tables
  | memories => exact Moves.limits.vector.map Contents.memories
  | globals => exact Moves.countOnly.map Contents.globals
  | exports => exact Moves.exportEntry.vector.map Contents.exports
  | code => exact Moves.countOnly.map Contents.code
  | start | elements | data | dataCount => exact Moves.skipRest.map fun _ => Contents.skipped

/-- A section that is cut off stands where the window stands. -/
protected theorem frame : Moves distance (Frame.moved distance) Reader.frame Reader.frame :=
  Moves.offset.bind fun _ => Moves.byte.bind fun _ => Moves.u32.bind fun size =>
    (Moves.window size.toNat).bind fun _ => fun _ => rfl

end Moves

end Reader

/-- What is wrong with a payload does not depend on where the section stands. -/
theorem Frame.contents_moved (distance : Nat) (f : Frame) (kind : SectionKind) :
    (f.moved distance).contents kind = (f.contents kind).mapError (·.moved distance) := by
  change (Reader.contents kind (f.payload.moved distance) >>= _) =
    (Reader.contents kind f.payload >>= _).mapError _
  rw [Reader.Moves.contents kind f.payload]
  cases Reader.contents kind f.payload with
  | error e => rfl
  | ok p =>
    change (require (p.2.remaining = 0) _ >>= _) = (require (p.2.remaining = 0) _ >>= _).mapError _
    unfold require
    split <;> rfl

namespace Draft

theorem accept_moved (distance : Nat) (d : Draft) (f : Frame) :
    d.accept (f.moved distance) = (d.accept f).mapError (·.moved distance) := by
  unfold accept Frame.moved
  cases SectionKind.ofId? f.id with
  | none => rfl
  | some kind =>
    unfold require
    dsimp only
    split <;> rfl

theorem step_moved (distance : Nat) (d : Draft) (f : Frame) :
    d.step (f.moved distance) = (d.step f).mapError (·.moved distance) := by
  unfold step
  rw [accept_moved]
  cases d.accept f with
  | error e => rfl
  | ok kind =>
    change ((f.moved distance).contents kind >>= _) = (f.contents kind >>= _).mapError _
    rw [Frame.contents_moved]
    cases f.contents kind <;> rfl

/-- Moving a row of sections moves the error that it may raise, and nothing else. -/
theorem sections_moved (distance : Nat) (d : Draft) (c : Cursor) :
    d.sections (c.moved distance) = (d.sections c).mapError (·.moved distance) := by
  -- induction on what is left to read, of which each frame takes some
  generalize size : c.remaining = n
  induction n using Nat.strongRecOn generalizing d c with
  | ind n ih =>
    by_cases done : c.window = []
    · have done' : (c.moved distance).window = [] := done
      rw [sections_of_end done, sections_of_end done']
      rfl
    · have more : (c.moved distance).window ≠ [] := done
      rw [sections_eq_bind done, sections_eq_bind more, Reader.Moves.frame c]
      cases hf : Reader.frame c with
      | error e => rfl
      | ok p =>
        have shorter := Reader.Consumes.frame _ _ _ hf
        change (d.step (p.1.moved distance) >>= fun d₁ => d₁.sections (p.2.moved distance)) =
          (d.step p.1 >>= fun d₁ => d₁.sections p.2).mapError _
        rw [step_moved]
        cases d.step p.1 with
        | error e => rfl
        | ok d₁ => exact ih p.2.remaining (by omega) d₁ p.2 rfl

end Draft

end WasmBindings
