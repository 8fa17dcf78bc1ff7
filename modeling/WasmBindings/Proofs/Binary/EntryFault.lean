import WasmBindings.Proofs.Binary.Entry
import WasmBindings.Proofs.Binary.Fault

/-!
# What is at fault in the entries of sections

For each kind of entry, where it has integers, and the lemma that its reader blames rightly. All
integers have 32 bits but the bounds of limits, which have 64 if the flags say so. A tag is at fault
where it stands, also if, as in exports, it is judged only after what follows it has been read.
-/

namespace WasmBindings

/-- The integers of a signature: those of the vectors of its parameters and results. -/
inductive Signature.IntegerAfter : IntegerSites
  | parameters {bits : Nat} {before : Bytes} :
      Spelling.Vector.IntegerAfter ValueType.SpelledBy .none bits before →
      IntegerAfter bits (0x60 :: before)
  | results {bits : Nat} {parameters : List ValueType} {front before : Bytes} :
      Spelling.Vector ValueType.SpelledBy parameters front →
      Spelling.Vector.IntegerAfter ValueType.SpelledBy .none bits before →
      IntegerAfter bits (0x60 :: (front ++ before))

/-- The number of bits of a bound under some flags. -/
def Limits.width (flags : UInt8) : Nat := if flags &&& 4 = 0 then 32 else 64

/-- The integers of limits: the minimum behind the flags, and a maximum behind that if bit 0 of the
flags says so. -/
inductive Limits.IntegerAfter : IntegerSites
  | min {flags : UInt8} : flags ≤ 7 → IntegerAfter (width flags) [flags]
  | max {flags : UInt8} {min : UInt64} {first : Bytes} : flags ≤ 7 → flags &&& 1 ≠ 0 →
      Spelling.Bound flags min first → IntegerAfter (width flags) (flags :: first)

/-- The integers of a table: those of its limits, behind the tag of its elements. -/
inductive TableType.IntegerAfter : IntegerSites
  | limits {element : UInt8} {bits : Nat} {before : Bytes} :
      Limits.IntegerAfter bits before → IntegerAfter bits (element :: before)

/-- The integers of what an import asks for: the index of a signature, or those of limits. -/
inductive ImportKind.IntegerAfter : IntegerSites
  | function : IntegerAfter 32 [0]
  | table {bits : Nat} {before : Bytes} :
      TableType.IntegerAfter bits before → IntegerAfter bits (1 :: before)
  | memory {bits : Nat} {before : Bytes} :
      Limits.IntegerAfter bits before → IntegerAfter bits (2 :: before)

/-- The integers of an import: the lengths of the two parts of its name, and those of its kind. -/
inductive Import.IntegerAfter : IntegerSites
  | moduleName : IntegerAfter 32 []
  | name {moduleName : String} {first : Bytes} :
      Spelling.Name moduleName first → IntegerAfter 32 first
  | kind {moduleName name : String} {first second before : Bytes} {bits : Nat} :
      Spelling.Name moduleName first → Spelling.Name name second →
      ImportKind.IntegerAfter bits before → IntegerAfter bits (first ++ (second ++ before))

/-- The integers of an export: the length of its name, and the index behind the tag. -/
inductive Export.IntegerAfter : IntegerSites
  | name : IntegerAfter 32 []
  | index {name : String} {first : Bytes} {tag : UInt8} :
      Spelling.Name name first → IntegerAfter 32 (first ++ [tag])

/-- A tag that is none of the four kinds of entity. -/
theorem IndexSpace.three_lt {tag : UInt8} (h : ∀ space : IndexSpace, tag ≠ space.tag) : 3 < tag := by
  have zero := h .function
  have one := h .table
  have two := h .memory
  have three := h .global
  rw [ne_eq, ← UInt8.toNat_inj] at zero one two three
  rw [UInt8.lt_iff_toNat_lt]
  simp only [IndexSpace.tag, UInt8.reduceToNat] at zero one two three ⊢
  omega

namespace Reader.Blames

protected theorem valueType : Blames Reader.valueType .none := Blames.byte.map ValueType.ofTag

protected theorem signature : Blames Reader.signature Signature.IntegerAfter := by
  have types : Blames (Reader.vector Reader.valueType)
      (Spelling.Vector.IntegerAfter ValueType.SpelledBy .none) :=
    Blames.vector Accepts.valueType Blames.valueType
  refine tagged (s := fun form bits before =>
    form = 0x60 ∧ Signature.IntegerAfter bits (0x60 :: before)) ?_ ?_
  · intro form c e run
    split at run
    · next wrong =>
      cases run
      exact .inl (.badTypeForm rfl wrong)
    · next right =>
      have right : form = 0x60 := Decidable.not_not.1 right
      refine .inr (Blames.bind Accepts.valueType.vector types (fun parameters =>
        types.map fun results => Signature.mk parameters results) ?_ ?_ _ e run)
      · exact fun bits before due => ⟨right, .parameters due⟩
      · exact fun parameters front bits before spelled due => ⟨right, .results spelled due⟩
  · intro form bits before given
    obtain ⟨rfl, due⟩ := given
    exact due

/-- A bound is as wide as the flags say. -/
protected theorem bound (flags : UInt8) :
    Blames (Reader.bound (flags &&& 4 != 0)) (.front (Limits.width flags)) := by
  unfold Reader.bound Limits.width
  by_cases narrow : flags &&& 4 = 0
  · rw [if_neg (by simp [narrow]), if_pos narrow]
    exact Blames.u32.map UInt32.toUInt64
  · rw [if_pos (by simpa using narrow), if_neg narrow]
    exact Blames.u64

protected theorem limits : Blames Reader.limits Limits.IntegerAfter := by
  refine tagged (s := fun flags bits before => Limits.IntegerAfter bits (flags :: before))
    ?_ (fun _ _ _ due => due)
  intro flags c e run
  split at run
  · next unknown =>
    cases run
    exact .inl (.badLimits rfl unknown)
  next known =>
  have known : flags ≤ 7 := UInt8.not_lt.1 known
  have max : ∀ min : UInt64, Blames (if flags &&& 1 = 0 then pure ⟨min, none⟩
      else Reader.bound (flags &&& 4 != 0) >>= fun max => pure (Limits.mk min (some max)))
      (fun bits before => flags &&& 1 ≠ 0 ∧ bits = Limits.width flags ∧ before = []) := by
    intro min
    split
    · exact Blames.pure _
    · next bounded => exact ((Blames.bound flags).map _).mono fun _ _ due => ⟨bounded, due⟩
  refine .inr (Blames.bind (Accepts.bound flags) (Blames.bound flags) max ?_ ?_ _ e run)
  · intro bits before due
    obtain ⟨rfl, rfl⟩ := due
    exact .min known
  · intro min first bits before spelled due
    obtain ⟨bounded, rfl, rfl⟩ := due
    rw [List.append_nil]
    exact .max known bounded spelled

protected theorem table : Blames Reader.table TableType.IntegerAfter := by
  refine Blames.bind Accepts.byte Blames.byte
    (fun element => Blames.limits.map (TableType.mk element)) ?_ ?_
  · exact fun _ _ none => none.elim
  · intro element front bits before same due
    obtain rfl := same
    exact .limits due

/-- A tag behind which no integer stands. -/
theorem mutability (value : ValueType) : Blames (Reader.offset >>= fun start =>
    Reader.byte >>= fun tag =>
      if tag = 0 then pure (GlobalType.mk value false)
      else if tag = 1 then pure ⟨value, true⟩
      else throw (.badKind .mutability tag start)) .none := by
  refine tagged (s := fun _ => .none) ?_ (fun _ _ _ none => none)
  intro tag c e run
  split at run
  · cases run
  next notZero =>
  split at run
  · cases run
  next notOne =>
  cases run
  refine .inl (.badKind rfl ?_)
  rw [← UInt8.toNat_inj] at notZero notOne
  rw [UInt8.lt_iff_toNat_lt]
  change ¬ tag.toNat = 0 at notZero
  change ¬ tag.toNat = 1 at notOne
  change 1 < tag.toNat
  omega

protected theorem globalType : Blames Reader.globalType .none :=
  Blames.bind Accepts.valueType Blames.valueType (fun value => mutability value)
    (fun _ _ none => none) fun _ _ _ _ _ none => none.elim

protected theorem importKind : Blames Reader.importKind ImportKind.IntegerAfter := by
  refine tagged (s := fun tag bits before => ImportKind.IntegerAfter bits (tag :: before))
    ?_ (fun _ _ _ due => due)
  intro tag c e run
  split at run
  · next h =>
    subst h
    refine .inr (((Blames.u32.map ImportKind.function) _ e run).mono fun bits before due => ?_)
    obtain ⟨rfl, rfl⟩ := due
    exact .function
  next notFunction =>
  split at run
  · next h =>
    subst h
    exact .inr (((Blames.table.map ImportKind.table) _ e run).mono fun _ _ => .table)
  next notTable =>
  split at run
  · next h =>
    subst h
    exact .inr (((Blames.limits.map ImportKind.memory) _ e run).mono fun _ _ => .memory)
  next notMemory =>
  split at run
  · exact .inr (((Blames.globalType.map ImportKind.global) _ e run).mono fun _ _ none => none.elim)
  next notGlobal =>
  cases run
  exact .inl (.badKind rfl (IndexSpace.three_lt fun space => by cases space <;> assumption))

protected theorem importEntry : Blames Reader.importEntry Import.IntegerAfter := by
  have behind : ∀ moduleName : String, Blames (Reader.name >>= fun name =>
      Reader.importKind >>= fun kind => pure (Import.mk moduleName name kind))
      (fun bits before => (bits = 32 ∧ before = []) ∨ ∃ name second back,
        Spelling.Name name second ∧ ImportKind.IntegerAfter bits back ∧ before = second ++ back) :=
    fun moduleName => Blames.bind Accepts.name Blames.name
      (fun name => Blames.importKind.map (Import.mk moduleName name))
      (fun _ _ due => .inl due)
      fun name second _ back spelled due => .inr ⟨name, second, back, spelled, due, rfl⟩
  refine Blames.bind Accepts.name Blames.name behind ?_ ?_
  · intro bits before due
    obtain ⟨rfl, rfl⟩ := due
    exact .moduleName
  · intro moduleName first bits before spelled due
    rcases due with ⟨rfl, rfl⟩ | ⟨name, second, back, spelled', due, rfl⟩
    · rw [List.append_nil]
      exact .name spelled
    · exact .kind spelled spelled' due

/-- The tag of an export is at fault if no space has it; it stands in front of the index. -/
theorem exportTarget (name : String) : Blames (Reader.offset >>= fun start =>
    Reader.byte >>= fun tag => Reader.u32 >>= fun index => Reader.exportOf name start tag index)
    (fun bits before => bits = 32 ∧ ∃ tag, before = [tag]) := by
  refine tagged (s := fun _ => .front 32) ?_ ?_
  · intro tag c e run
    rcases bind_eq_error_iff.1 run with failed | ⟨index, c₂, _, run⟩
    · exact .inr (Blames.u32 _ e failed)
    · unfold Reader.exportOf at run
      cases known : exportSpace? tag with
      | some space =>
        rw [known] at run
        cases run
      | none =>
        rw [known] at run
        cases run
        refine .inl (.badKind rfl (IndexSpace.three_lt fun space same => ?_))
        rw [exportSpace?_eq_some_iff.2 same] at known
        cases known
  · intro tag bits before due
    obtain ⟨rfl, rfl⟩ := due
    exact ⟨rfl, tag, rfl⟩

protected theorem exportEntry : Blames Reader.exportEntry Export.IntegerAfter := by
  refine Blames.bind Accepts.name Blames.name exportTarget ?_ ?_
  · intro bits before due
    obtain ⟨rfl, rfl⟩ := due
    exact .name
  · intro name first bits before spelled due
    obtain ⟨rfl, tag, rfl⟩ := due
    exact .index spelled

end Reader.Blames

end WasmBindings
