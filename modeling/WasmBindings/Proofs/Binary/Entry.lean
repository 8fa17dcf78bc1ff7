import WasmBindings.Binary.Entry
import WasmBindings.Proofs.Binary.Integer

/-!
# The entries of sections as spellings

Each kind of entry with the bytes that may stand for it, and the lemma that its reader accepts
exactly these. Two things leave room for choice besides the spelling of integers: the flags of
limits, of which the shared bit means nothing here, and the width of bounds, which the flags set.
-/

namespace WasmBindings

/-- The tags of the four number types. -/
def ValueType.numberTags : List UInt8 := [0x7f, 0x7e, 0x7d, 0x7c]

/-- A value type that is no number type under another name. -/
def ValueType.Proper (t : ValueType) : Prop := ∀ tag ∈ numberTags, t ≠ .other tag

instance : DecidablePred ValueType.Proper := fun t =>
  List.decidableBAll (fun tag => t ≠ .other tag) ValueType.numberTags

/-- A value type is its tag. -/
def ValueType.SpelledBy (t : ValueType) (bytes : Bytes) : Prop :=
  t.Proper ∧ bytes = [t.tag]

/-- A signature: the form `0x60`, the parameters, the results. -/
def Signature.SpelledBy (s : Signature) (bytes : Bytes) : Prop :=
  ∃ parameters results, Spelling.Vector ValueType.SpelledBy s.parameters parameters ∧
    Spelling.Vector ValueType.SpelledBy s.results results ∧
    bytes = 0x60 :: (parameters ++ results)

/-- A bound under some flags, of which bit 2 makes it 64 bits wide. -/
def Spelling.Bound (flags : UInt8) (n : UInt64) (bytes : Bytes) : Prop :=
  Leb128.SpelledBy (if flags &&& 4 = 0 then 32 else 64) n.toNat bytes

/-- Limits: flags below 8, the minimum, and a maximum if bit 0 of the flags says so. -/
inductive Limits.SpelledBy : Limits → Bytes → Prop
  | unbounded {flags : UInt8} {min : UInt64} {first : Bytes} : flags ≤ 7 → flags &&& 1 = 0 →
      Spelling.Bound flags min first → SpelledBy ⟨min, none⟩ (flags :: first)
  | bounded {flags : UInt8} {min max : UInt64} {first second : Bytes} : flags ≤ 7 →
      flags &&& 1 ≠ 0 → Spelling.Bound flags min first → Spelling.Bound flags max second →
      SpelledBy ⟨min, some max⟩ (flags :: (first ++ second))

/-- A table: the tag of its elements, its limits. -/
def TableType.SpelledBy (t : TableType) (bytes : Bytes) : Prop :=
  ∃ limits, t.limits.SpelledBy limits ∧ bytes = t.element :: limits

/-- A global's type: what it holds, then 1 if it may change and 0 if not. -/
def GlobalType.SpelledBy (g : GlobalType) (bytes : Bytes) : Prop :=
  ∃ value, g.value.SpelledBy value ∧ bytes = value ++ [if g.isMutable then 1 else 0]

/-- What an import asks for: the tag of the kind, then its description. -/
inductive ImportKind.SpelledBy : ImportKind → Bytes → Prop
  | function {index : UInt32} {bytes : Bytes} :
      Spelling.U32 index bytes → SpelledBy (.function index) (0 :: bytes)
  | table {type : TableType} {bytes : Bytes} :
      type.SpelledBy bytes → SpelledBy (.table type) (1 :: bytes)
  | memory {limits : Limits} {bytes : Bytes} :
      limits.SpelledBy bytes → SpelledBy (.memory limits) (2 :: bytes)
  | global {type : GlobalType} {bytes : Bytes} :
      type.SpelledBy bytes → SpelledBy (.global type) (3 :: bytes)

/-- An import: the two parts of its name, and what it asks for. -/
def Import.SpelledBy (i : Import) (bytes : Bytes) : Prop :=
  ∃ moduleName name kind, Spelling.Name i.moduleName moduleName ∧ Spelling.Name i.name name ∧
    i.kind.SpelledBy kind ∧ bytes = moduleName ++ (name ++ kind)

/-- The tag of an index space in exports. -/
def IndexSpace.tag : IndexSpace → UInt8
  | .function => 0
  | .table => 1
  | .memory => 2
  | .global => 3

/-- An export: its name, the tag of the space, the index. -/
def Export.SpelledBy (e : Export) (bytes : Bytes) : Prop :=
  ∃ name index, Spelling.Name e.name name ∧ Spelling.U32 e.index index ∧
    bytes = name ++ e.space.tag :: index

/-! ## What the readers accept -/

theorem ValueType.proper_ofTag (tag : UInt8) : (ofTag tag).Proper := by
  intro number h same
  -- a type from a tag keeps it, so only the tag itself could be in question
  have tags : tag = number := by
    rw [← tag_ofTag tag, same]
    rfl
  subst tags
  simp only [numberTags, List.mem_cons, List.not_mem_nil, or_false] at h
  rcases h with rfl | rfl | rfl | rfl
  all_goals exact absurd same (by decide)

theorem ValueType.Proper.normal {t : ValueType} (h : t.Proper) : t.Normal := by
  cases t with
  | other tag =>
    have different : ∀ number ∈ numberTags, tag ≠ number :=
      fun number hn same => h number hn (same ▸ rfl)
    change ofTag tag = other tag
    unfold ofTag
    rw [if_neg (different _ (by decide)), if_neg (different _ (by decide)),
      if_neg (different _ (by decide)), if_neg (different _ (by decide))]
  | _ => exact trivial

theorem IndexSpace.tag_injective {s t : IndexSpace} (h : s.tag = t.tag) : s = t := by
  cases s <;> cases t <;> first | rfl | exact absurd h (by decide)

/-- The reader of exports knows the tags of the spaces and no other. -/
theorem Reader.exportSpace?_eq_some_iff {tag : UInt8} {space : IndexSpace} :
    exportSpace? tag = some space ↔ tag = space.tag := by
  constructor
  · intro known
    unfold exportSpace? at known
    repeat' split at known
    all_goals cases known <;> assumption
  · intro h
    obtain rfl := h
    cases space <;> rfl

/-- The end of reading an export, when all its parts are read. -/
def Reader.exportOf (name : String) (start : Nat) (tag : UInt8) (index : UInt32) : Reader Export :=
  match exportSpace? tag with
  | some space => pure ⟨name, space, index⟩
  | none => throw (.badKind .exportKind tag start)

namespace Reader.Accepts

protected theorem valueType : Accepts Reader.valueType ValueType.SpelledBy := by
  refine (Accepts.byte.map ValueType.ofTag).congr fun t bytes => ?_
  constructor
  · intro h
    obtain ⟨tag, rfl, rfl⟩ := h
    exact ⟨ValueType.proper_ofTag tag, by rw [ValueType.tag_ofTag]⟩
  · intro h
    obtain ⟨proper, rfl⟩ := h
    exact ⟨t.tag, rfl, (ValueType.ofTag_tag proper.normal).symm⟩

protected theorem signature : Accepts Reader.signature Signature.SpelledBy := by
  refine Accepts.located fun start => ?_
  have body : Accepts (Reader.vector Reader.valueType >>= fun parameters =>
      Reader.vector Reader.valueType >>= fun results => pure (Signature.mk parameters results)) _ :=
    Accepts.valueType.vector.bind fun parameters => Accepts.valueType.vector.map _
  refine (Accepts.byteThen fun form =>
    (Accepts.throw (.badTypeForm form start)).ite (p := form ≠ 0x60) body).congr fun s bytes => ?_
  constructor
  · intro h
    obtain ⟨form, rest, spelled, rfl⟩ := h
    split at spelled
    · exact spelled.elim
    · next right =>
      obtain ⟨ps, front, back, hp, ⟨rs, hr, rfl⟩, rfl⟩ := spelled
      exact ⟨front, back, hp, hr, by rw [Decidable.not_not.mp right]⟩
  · intro h
    obtain ⟨front, back, hp, hr, rfl⟩ := h
    refine ⟨0x60, front ++ back, ?_, rfl⟩
    rw [if_neg (by decide)]
    exact ⟨_, front, back, hp, ⟨_, hr, rfl⟩, rfl⟩

protected theorem bound (flags : UInt8) :
    Accepts (Reader.bound (flags &&& 4 != 0)) (Spelling.Bound flags) := by
  unfold Reader.bound Spelling.Bound
  by_cases narrow : flags &&& 4 = 0
  · rw [if_neg (by simp [narrow]), if_pos narrow]
    -- a narrow bound is read as 32 bits and then widened, which loses nothing
    refine (Accepts.u32.map UInt32.toUInt64).congr fun n bytes => ?_
    constructor
    · intro h
      obtain ⟨k, spelled, rfl⟩ := h
      rwa [UInt32.toNat_toUInt64]
    · intro spelled
      have same : n.toUInt32.toNat = n.toNat := by
        rw [UInt64.toNat_toUInt32, Nat.mod_eq_of_lt spelled.fits]
      refine ⟨n.toUInt32, by rwa [Spelling.U32, same], ?_⟩
      rw [← UInt64.toNat_inj, UInt32.toNat_toUInt64, same]
  · rw [if_pos (by simpa using narrow), if_neg narrow]
    exact Accepts.u64

protected theorem limits : Accepts Reader.limits Limits.SpelledBy := by
  refine Accepts.located fun start => ?_
  have body : ∀ flags : UInt8, Accepts (Reader.bound (flags &&& 4 != 0) >>= fun min =>
      if flags &&& 1 = 0 then pure ⟨min, none⟩
      else Reader.bound (flags &&& 4 != 0) >>= fun max => pure (Limits.mk min (some max))) _ :=
    fun flags => (Accepts.bound flags).bind fun min =>
      (Accepts.pure _).ite (p := flags &&& 1 = 0) ((Accepts.bound flags).map _)
  refine (Accepts.byteThen fun flags =>
    (Accepts.throw (.badLimits flags start)).ite (p := flags > 7) (body flags)).congr
      fun l bytes => ?_
  constructor
  · intro h
    obtain ⟨flags, rest, spelled, rfl⟩ := h
    split at spelled
    · exact spelled.elim
    · next known =>
      obtain ⟨min, front, back, hmin, spelled, rfl⟩ := spelled
      -- bit 0 of the flags decides whether a maximum follows
      split at spelled
      · next single =>
        obtain ⟨rfl, rfl⟩ := spelled
        rw [List.append_nil]
        exact .unbounded (UInt8.not_lt.mp known) single hmin
      · next double =>
        obtain ⟨max, hmax, rfl⟩ := spelled
        exact .bounded (UInt8.not_lt.mp known) double hmin hmax
  · intro spelled
    cases spelled with
    | @unbounded flags min first known single hmin =>
      refine ⟨flags, first, ?_, rfl⟩
      rw [if_neg (UInt8.not_lt.mpr known)]
      refine ⟨min, first, [], hmin, ?_, (List.append_nil _).symm⟩
      rw [if_pos single]
      exact ⟨rfl, rfl⟩
    | @bounded flags min max first second known double hmin hmax =>
      refine ⟨flags, first ++ second, ?_, rfl⟩
      rw [if_neg (UInt8.not_lt.mpr known)]
      refine ⟨min, first, second, hmin, ?_, rfl⟩
      rw [if_neg double]
      exact ⟨max, hmax, rfl⟩

protected theorem table : Accepts Reader.table TableType.SpelledBy := by
  refine (Accepts.byteThen fun element => Accepts.limits.map (TableType.mk element)).congr
    fun t bytes => ?_
  constructor
  · intro h
    obtain ⟨element, rest, ⟨limits, spelled, rfl⟩, rfl⟩ := h
    exact ⟨rest, spelled, rfl⟩
  · intro h
    obtain ⟨rest, spelled, rfl⟩ := h
    exact ⟨t.element, rest, ⟨t.limits, spelled, rfl⟩, rfl⟩

/-- The byte behind a global's value type. -/
theorem mutability (value : ValueType) (start : Nat) :
    Accepts (Reader.byte >>= fun tag =>
      if tag = 0 then pure (GlobalType.mk value false)
      else if tag = 1 then pure ⟨value, true⟩
      else throw (.badKind .mutability tag start))
      (fun g bytes => g.value = value ∧ bytes = [if g.isMutable then 1 else 0]) := by
  refine (Accepts.byteThen fun tag => (Accepts.pure _).ite (p := tag = 0)
    ((Accepts.pure _).ite (p := tag = 1) (Accepts.throw _))).congr fun g bytes => ?_
  constructor
  · intro h
    obtain ⟨tag, rest, spelled, rfl⟩ := h
    split at spelled
    · next zero =>
      obtain ⟨rfl, rfl⟩ := spelled
      exact ⟨rfl, by rw [zero]; rfl⟩
    · split at spelled
      · next one =>
        obtain ⟨rfl, rfl⟩ := spelled
        exact ⟨rfl, by rw [one]; rfl⟩
      · exact spelled.elim
  · obtain ⟨held, isMutable⟩ := g
    intro h
    obtain ⟨rfl, rfl⟩ := h
    cases isMutable
    · exact ⟨0, [], ⟨rfl, rfl⟩, rfl⟩
    · exact ⟨1, [], ⟨rfl, rfl⟩, rfl⟩

protected theorem globalType : Accepts Reader.globalType GlobalType.SpelledBy := by
  refine (Accepts.valueType.bind fun value =>
    Accepts.located fun start => mutability value start).congr fun g bytes => ?_
  constructor
  · intro h
    obtain ⟨_, front, _, spelled, ⟨rfl, rfl⟩, rfl⟩ := h
    exact ⟨front, spelled, rfl⟩
  · intro h
    obtain ⟨front, spelled, rfl⟩ := h
    exact ⟨_, front, _, spelled, ⟨rfl, rfl⟩, rfl⟩

protected theorem importKind : Accepts Reader.importKind ImportKind.SpelledBy := by
  refine Accepts.located fun start => ?_
  refine (Accepts.byteThen fun tag => (Accepts.u32.map ImportKind.function).ite (p := tag = 0)
    ((Accepts.table.map ImportKind.table).ite (p := tag = 1)
      ((Accepts.limits.map ImportKind.memory).ite (p := tag = 2)
        ((Accepts.globalType.map ImportKind.global).ite (p := tag = 3)
          (Accepts.throw (.badKind .importKind tag start)))))).congr fun kind bytes => ?_
  constructor
  · intro given
    obtain ⟨tag, rest, spelled, rfl⟩ := given
    split at spelled
    · next h =>
      obtain ⟨index, spelled, rfl⟩ := spelled
      exact h ▸ .function spelled
    · split at spelled
      · next h =>
        obtain ⟨type, spelled, rfl⟩ := spelled
        exact h ▸ .table spelled
      · split at spelled
        · next h =>
          obtain ⟨limits, spelled, rfl⟩ := spelled
          exact h ▸ .memory spelled
        · split at spelled
          · next h =>
            obtain ⟨type, spelled, rfl⟩ := spelled
            exact h ▸ .global spelled
          · exact spelled.elim
  · intro spelled
    cases spelled with
    | function spelled => exact ⟨0, _, ⟨_, spelled, rfl⟩, rfl⟩
    | table spelled => exact ⟨1, _, ⟨_, spelled, rfl⟩, rfl⟩
    | memory spelled => exact ⟨2, _, ⟨_, spelled, rfl⟩, rfl⟩
    | global spelled => exact ⟨3, _, ⟨_, spelled, rfl⟩, rfl⟩

protected theorem importEntry : Accepts Reader.importEntry Import.SpelledBy := by
  refine (Accepts.name.bind fun moduleName => Accepts.name.bind fun name =>
    Accepts.importKind.map (Import.mk moduleName name)).congr fun i bytes => ?_
  constructor
  · intro h
    obtain ⟨_, front, _, hm, ⟨_, middle, back, hn, ⟨_, hk, rfl⟩, rfl⟩, rfl⟩ := h
    exact ⟨front, middle, back, hm, hn, hk, rfl⟩
  · intro h
    obtain ⟨front, middle, back, hm, hn, hk, rfl⟩ := h
    exact ⟨_, front, _, hm, ⟨_, middle, back, hn, ⟨_, hk, rfl⟩, rfl⟩, rfl⟩

/-- The tag of an export says its space, if it is one of the four. -/
protected theorem exportOf (name : String) (start : Nat) (tag : UInt8) (index : UInt32) :
    Accepts (Reader.exportOf name start tag index)
      (fun e bytes => (e.name = name ∧ tag = e.space.tag ∧ e.index = index) ∧ bytes = []) := by
  unfold Reader.exportOf
  cases known : exportSpace? tag with
  | some space =>
    refine (Accepts.pure _).congr fun e bytes => and_congr_left fun _ => ?_
    rw [exportSpace?_eq_some_iff] at known
    constructor
    · intro h
      obtain rfl := h
      exact ⟨rfl, known, rfl⟩
    · obtain ⟨_, other, _⟩ := e
      intro h
      obtain ⟨rfl, same, rfl⟩ := h
      -- the tag is known, and no other space has it
      rw [IndexSpace.tag_injective (known.symm.trans same)]
  | none =>
    refine (Accepts.throw _).congr fun e bytes => ?_
    constructor
    · exact False.elim
    · intro h
      obtain ⟨⟨_, same, _⟩, _⟩ := h
      rw [exportSpace?_eq_some_iff.2 same] at known
      cases known

protected theorem exportEntry : Accepts Reader.exportEntry Export.SpelledBy := by
  refine (Accepts.name.bind fun name => Accepts.located fun start => Accepts.byteThen fun tag =>
    Accepts.u32.bind fun index => Accepts.exportOf name start tag index).congr fun e bytes => ?_
  constructor
  · intro h
    obtain ⟨_, front, _, hn, ⟨_, _, ⟨_, back, _, hi, ⟨⟨rfl, rfl, rfl⟩, rfl⟩, rfl⟩, rfl⟩, rfl⟩ := h
    exact ⟨front, back, hn, hi, by rw [List.append_nil]⟩
  · intro h
    obtain ⟨front, back, hn, hi, rfl⟩ := h
    exact ⟨_, front, _, hn, ⟨_, _, ⟨_, back, [], hi, ⟨⟨rfl, rfl, rfl⟩, rfl⟩, rfl⟩, rfl⟩,
      by rw [List.append_nil]⟩

end Reader.Accepts

end WasmBindings
