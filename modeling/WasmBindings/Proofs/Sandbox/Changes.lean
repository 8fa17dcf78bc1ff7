import WasmBindings.Proofs.Sandbox.Ways

/-!
# What changes in a tree

Each operation on files changes a tree at the place that its path leads to, and nowhere else.
Making directories adds directories where nothing was (`FileTree.Grows`), all of them on the way of
the path; it changes nothing that was there (`FileTree.makeFirst_growsAlong`).
-/

namespace WasmBindings

namespace Node

/-- Whether this takes what is written to it and keeps nothing. -/
def isDevice : Node → Bool
  | sink | zeros | stream _ => true
  | _ => false

/-- Whether this is a file with contents. -/
def isFile : Node → Bool
  | file .. => true
  | _ => false

end Node

namespace FileTree

variable {t t' t'' : FileTree} {directory place other : Place} {p : Path} {node : Node}

/-! ## Putting and erasing -/

theorem find?_root (t : FileTree) : t.find? [] = some .directory := by
  rw [find?, if_pos rfl]

theorem ne_root_of_find? (h : t.find? place ≠ some .directory) : place ≠ [] := by
  rintro rfl
  exact h (find?_root t)

/-- What stands at a place other than the root is the first entry for it. -/
theorem find?_of_ne_root (below : place ≠ []) :
    t.find? place = (t.entries.find? (·.1 = place)).map (·.2) := by
  rw [find?, if_neg below]

/-- Entries of other places do not matter. -/
theorem find?_filter_ne (entries : List (Place × Node)) (ne : other ≠ place) :
    (entries.filter (·.1 ≠ place)).find? (·.1 = other) = entries.find? (·.1 = other) := by
  rw [List.find?_filter]
  congr 1
  funext entry
  by_cases h : entry.1 = other
  · simp [h, ne]
  · simp [h]

theorem find?_put_of_ne (t : FileTree) (node : Node) (ne : other ≠ place) :
    (t.put place node).find? other = t.find? other := by
  by_cases root : other = []
  · rw [root, find?_root, find?_root]
  · have apart : ([(place, node)] : List (Place × Node)).find? (·.1 = other) = none := by
      simp [Ne.symm ne]
    rw [find?_of_ne_root root, find?_of_ne_root root, put, List.find?_append, apart,
      Option.or_none, find?_filter_ne _ ne]

theorem find?_erase_of_ne (t : FileTree) (ne : other ≠ place) :
    (t.erase place).find? other = t.find? other := by
  by_cases root : other = []
  · rw [root, find?_root, find?_root]
  · rw [find?_of_ne_root root, find?_of_ne_root root, erase, find?_filter_ne _ ne]

theorem find?_erase (t : FileTree) (below : place ≠ []) : (t.erase place).find? place = none := by
  have gone : (t.entries.filter (·.1 ≠ place)).find? (·.1 = place) = none := by
    rw [List.find?_eq_none]
    intro entry mem
    simpa using (List.mem_filter.1 mem).2
  rw [find?_of_ne_root below, erase, gone]
  rfl

/-- A tree without entries for links has no links. -/
theorem linkFree_of_entries (h : ∀ entry ∈ t.entries, entry.2.isLink = false) : t.LinkFree := by
  intro place target link
  have below : place ≠ [] := ne_root_of_find? (by rw [link]; simp)
  rw [find?_of_ne_root below, Option.map_eq_some_iff] at link
  obtain ⟨entry, found, same⟩ := link
  have plain := h entry (List.mem_of_find?_eq_some found)
  rw [same] at plain
  cases plain

/-! ## Ways in changed trees -/

theorem KeepsWays.refl (t : FileTree) : KeepsWays t t := fun _ _ h _ => h

/-- Something that no way leads over makes no new ways. -/
theorem KeepsWays.of_put (keeps : KeepsWays t t') (off : node.leadsOn = false)
    (below : place ≠ []) : KeepsWays (t.put place node) t' := by
  intro other old found leads
  by_cases same : other = place
  · subst same
    rw [find?_put _ _ below] at found
    cases found
    rw [off] at leads
    cases leads
  · rw [find?_put_of_ne _ _ same] at found
    exact keeps other old found leads

/-- Nothing makes no new ways either. -/
theorem KeepsWays.of_erase (keeps : KeepsWays t t') (below : place ≠ []) :
    KeepsWays (t.erase place) t' := by
  intro other old found leads
  by_cases same : other = place
  · subst same
    rw [find?_erase _ below] at found
    cases found
  · rw [find?_erase_of_ne _ same] at found
    exact keeps other old found leads

/-! ## Growing -/

/-- The same tree but for directories where nothing was. -/
def Grows (t t' : FileTree) : Prop :=
  ∀ place, t'.find? place = t.find? place ∨
    t.find? place = none ∧ t'.find? place = some .directory

theorem Grows.refl (t : FileTree) : Grows t t := fun _ => .inl rfl

theorem Grows.trans (first : Grows t t') (second : Grows t' t'') : Grows t t'' := by
  intro place
  rcases first place with same | ⟨none, made⟩
  · rcases second place with same' | ⟨none, made⟩
    · exact .inl (same'.trans same)
    · exact .inr ⟨same ▸ none, made⟩
  · rcases second place with same | ⟨none', _⟩
    · exact .inr ⟨none, same.trans made⟩
    · rw [made] at none'
      cases none'

/-- What was there is still there. -/
theorem Grows.find? (grows : Grows t t') (h : t.find? place = some node) :
    t'.find? place = some node := by
  rcases grows place with same | ⟨none, _⟩
  · rw [same, h]
  · rw [none] at h
    cases h

theorem Grows.keepsWays (grows : Grows t t') : KeepsWays t t' := fun _ _ h _ => grows.find? h

theorem Grows.linkFree (grows : Grows t t') (free : t.LinkFree) : t'.LinkFree := by
  intro place target link
  rcases grows place with same | ⟨_, made⟩
  · exact free place target (same ▸ link)
  · rw [made] at link
    cases link

theorem grows_put (free : t.find? place = none) : Grows t (t.put place .directory) := by
  intro other
  by_cases same : other = place
  · subst same
    have below : other ≠ [] := ne_root_of_find? (by rw [free]; simp)
    exact .inr ⟨free, find?_put _ _ below⟩
  · exact .inl (find?_put_of_ne _ _ same)

/-! ## Making directories -/

/-- What making a directory does, by what stands where its path leads to. -/
theorem makeDirectory_of_place (led : t.place directory p false = .ok place) :
    t.makeDirectory directory p =
      match t.find? place with
      | some _ => .error .alreadyExists
      | none => .ok (t.put place .directory) := by
  unfold makeDirectory
  rw [led]
  dsimp only [bind, Except.bind]
  cases t.find? place <;> rfl

theorem makeDirectory_eq_ok (h : t.makeDirectory directory p = .ok t') :
    ∃ place, t.place directory p false = .ok place ∧ t.find? place = none ∧
      t' = t.put place .directory := by
  cases led : t.place directory p false with
  | error e =>
    unfold makeDirectory at h
    rw [led] at h
    cases h
  | ok place =>
    rw [makeDirectory_of_place led] at h
    cases found : t.find? place with
    | some node =>
      rw [found] at h
      cases h
    | none =>
      rw [found] at h
      cases h
      exact ⟨place, rfl, found, rfl⟩

/-- A directory that lies in a missing one is made after that. -/
theorem makeFirst_of_notFound {outer : List Path} (named : p.text.isEmpty = false)
    (missing : t.place directory p false = .error .notFound)
    (around : t.makeFirst directory outer = (t', .ok ())) :
    t.makeFirst directory (p :: outer) =
      match t'.makeDirectory directory p with
      | .ok t => (t, .ok ())
      | .error error => (t', if t'.isDirectory directory p then .ok () else .error error) := by
  have failed : t.makeDirectory directory p = .error .notFound := by
    unfold makeDirectory
    rw [missing]
    rfl
  rw [makeFirst, named, failed, around]
  rfl

/-- Growth at places that some paths lead to. -/
structure GrowsAlong (directory : Place) (paths : List Path) (t t' : FileTree) : Prop where
  grows : Grows t t'
  along : ∀ place, t'.find? place ≠ t.find? place → ∃ p ∈ paths, t'.place directory p = .ok place

theorem GrowsAlong.refl (directory : Place) (paths : List Path) (t : FileTree) :
    GrowsAlong directory paths t t :=
  ⟨.refl t, fun _ changed => absurd rfl changed⟩

/-- One more directory, outside of those made before. -/
theorem GrowsAlong.makeDirectory {paths : List Path} (before : GrowsAlong directory paths t t')
    (h : t'.makeDirectory directory p = .ok t'') : GrowsAlong directory (p :: paths) t t'' := by
  obtain ⟨made, led, free, rfl⟩ := makeDirectory_eq_ok h
  have grows := grows_put free
  have below : made ≠ [] := ne_root_of_find? (by rw [free]; simp)
  refine ⟨before.grows.trans grows, fun place changed => ?_⟩
  by_cases same : place = made
  · subst same
    refine ⟨p, List.mem_cons_self, place_mono grows.keepsWays (by simp) led fun target => ?_⟩
    rw [find?_put _ _ below]
    simp
  · rw [find?_put_of_ne _ _ same] at changed
    obtain ⟨q, mem, there⟩ := before.along place changed
    refine ⟨q, List.mem_cons_of_mem _ mem, place_mono grows.keepsWays id there fun target => ?_⟩
    rcases before.grows place with same' | ⟨_, directory⟩
    · exact absurd same' changed
    · rw [find?_put_of_ne _ _ same, directory]
      simp

theorem GrowsAlong.mono {paths : List Path} (h : GrowsAlong directory paths t t') (p : Path) :
    GrowsAlong directory (p :: paths) t t' :=
  ⟨h.grows, fun place changed => by
    obtain ⟨q, mem, there⟩ := h.along place changed
    exact ⟨q, List.mem_cons_of_mem _ mem, there⟩⟩

/-- **Making directories adds directories on the way of the path,** be it successful or not. -/
theorem makeFirst_growsAlong (t : FileTree) (directory : Place) (paths : List Path) :
    GrowsAlong directory paths t (t.makeFirst directory paths).1 := by
  induction paths with
  | nil => exact .refl directory [] t
  | cons p outer ih =>
    unfold makeFirst
    split
    · exact .refl directory _ t
    dsimp only
    split
    · next made => exact (GrowsAlong.refl directory outer t).makeDirectory made
    · split
      · next failed =>
        rw [failed] at ih
        exact ih.mono p
      · next rest =>
        rw [rest] at ih
        split
        · next made => exact ih.makeDirectory made
        · exact ih.mono p
    · exact .refl directory _ t

/-! ## Files -/

theorem resolve_of_file {follow : Bool} (file : p.endsInSlash = false) :
    t.resolve directory p follow = t.place directory p follow := by
  unfold resolve
  rw [file, Bool.or_false]
  cases t.place directory p follow with
  | error e => rfl
  | ok place =>
    simp only [Bool.false_eq_true, false_and, if_false, bind, Except.bind]
    rfl

/-- What writing a file does, by what stands where its path leads to. -/
theorem writeFile_of_place (contents : Bytes) (file : p.endsInSlash = false)
    (led : t.place directory p = .ok place) : t.writeFile directory p contents =
      match t.find? place with
      | some .directory => .error .isADirectory
      | some (.program _) => .error .permissionDenied
      | some (.file _ mode) => .ok (t.put place (.file contents mode))
      | some (.link _) | none => .ok (t.put place (.file contents Node.plainMode))
      | some .sink | some .zeros | some (.stream _) => .ok t := by
  unfold writeFile
  rw [led, file]
  simp only [Bool.false_eq_true, if_false, bind, Except.bind, pure, Except.pure]
  cases t.find? place with
  | none => rfl
  | some node => cases node <;> rfl

/-- A file that is written stands where its path leads to, unless something stands there that keeps
nothing. -/
theorem writeFile_eq_ok {contents : Bytes} (h : t.writeFile directory p contents = .ok t') :
    ∃ place, t.place directory p = .ok place ∧
      ((t' = t ∧ ∃ device, t.find? place = some device ∧ device.isDevice) ∨
        ((∀ old, t.find? place = some old → old.isFile ∨ old.isLink) ∧
          ∃ mode, t' = t.put place (.file contents mode))) := by
  by_cases slash : p.endsInSlash
  · unfold writeFile at h
    rw [slash] at h
    cases led : t.place directory p with
    | error e =>
      rw [led] at h
      cases h
    | ok place =>
      rw [led] at h
      cases h
  cases led : t.place directory p with
  | error e =>
    unfold writeFile at h
    rw [led] at h
    cases h
  | ok place =>
    rw [writeFile_of_place contents (Bool.eq_false_iff.2 slash) led] at h
    refine ⟨place, rfl, ?_⟩
    cases found : t.find? place with
    | none =>
      rw [found] at h
      cases h
      exact .inr ⟨fun _ there => absurd there (by simp), _, rfl⟩
    | some node =>
      rw [found] at h
      cases node with
      | directory | program _ => cases h
      | file _ _ =>
        cases h
        exact .inr ⟨fun old there => .inl (by cases there; rfl), _, rfl⟩
      | link _ =>
        cases h
        exact .inr ⟨fun old there => .inr (by cases there; rfl), _, rfl⟩
      | sink | zeros | stream _ =>
        cases h
        exact .inl ⟨rfl, _, rfl, rfl⟩

/-- What is removed is a file or a link. -/
theorem removeFile_eq_ok (h : t.removeFile directory p = .ok t') :
    ∃ follow place, t.place directory p follow = .ok place ∧ t' = t.erase place ∧
      ((∃ contents mode, t.find? place = some (.file contents mode)) ∨
        ∃ target, t.find? place = some (.link target)) := by
  unfold removeFile at h
  cases led : t.resolve directory p false with
  | error e =>
    rw [led] at h
    cases h
  | ok place =>
    rw [led] at h
    dsimp only [bind, Except.bind] at h
    refine ⟨_, place, place_of_resolve led, ?_⟩
    cases found : t.find? place with
    | none =>
      rw [found] at h
      cases h
    | some node =>
      rw [found] at h
      cases node with
      | file contents mode =>
        cases h
        exact ⟨rfl, .inl ⟨_, _, rfl⟩⟩
      | link target =>
        cases h
        exact ⟨rfl, .inr ⟨_, rfl⟩⟩
      | _ => cases h

theorem removeFile_of_file {contents : Bytes} {mode : Nat} (file : p.endsInSlash = false)
    (led : t.place directory p false = .ok place)
    (found : t.find? place = some (.file contents mode)) :
    t.removeFile directory p = .ok (t.erase place) := by
  unfold removeFile
  rw [resolve_of_file file, led]
  simp only [bind, Except.bind, found]
  rfl

/-! ## Trees that differ in files -/

/-- The same tree but for files, which may have come, gone or changed. -/
def SameButFiles (t t' : FileTree) : Prop :=
  ∀ place node, node.isFile = false → (t'.find? place = some node ↔ t.find? place = some node)

namespace SameButFiles

theorem refl (t : FileTree) : SameButFiles t t := fun _ _ _ => .rfl

theorem isFile_of_leadsOn {node : Node} (h : node.leadsOn) : node.isFile = false := by
  cases node with
  | file _ _ => cases h
  | _ => rfl

theorem keepsWays (same : SameButFiles t t') : KeepsWays t t' :=
  fun place node found leads => (same place node (isFile_of_leadsOn leads)).2 found

theorem keepsWays_back (same : SameButFiles t t') : KeepsWays t' t :=
  fun place node found leads => (same place node (isFile_of_leadsOn leads)).1 found

theorem linkFree (same : SameButFiles t t') (free : t.LinkFree) : t'.LinkFree :=
  fun place target link => free place target ((same place _ rfl).1 link)

/-- Without links, all paths lead to the same places. -/
theorem place_iff {follow : Bool} (same : SameButFiles t t') (free : t.LinkFree) :
    t'.place directory p follow = .ok place ↔ t.place directory p follow = .ok place :=
  ⟨fun led => place_mono same.keepsWays_back id led (free place),
    fun led => place_mono same.keepsWays id led (same.linkFree free place)⟩

/-- The root is no place for a file. -/
theorem ne_root (off : ∀ old, t.find? place = some old → old.isFile) : place ≠ [] := by
  rintro rfl
  exact absurd (off _ (find?_root t)) (by decide)

/-- A file may be put where a file or nothing is. -/
theorem put {contents : Bytes} {mode : Nat} (same : SameButFiles t t')
    (off : ∀ old, t'.find? place = some old → old.isFile) :
    SameButFiles t (t'.put place (.file contents mode)) := by
  have below := ne_root off
  intro other node kind
  by_cases here : other = place
  · subst here
    rw [find?_put _ _ below, ← same other node kind]
    constructor
    · intro h
      cases h
      cases kind
    · intro h
      rw [off node h] at kind
      cases kind
  · rw [find?_put_of_ne _ _ here]
    exact same other node kind

theorem erase (same : SameButFiles t t') (off : ∀ old, t'.find? place = some old → old.isFile) :
    SameButFiles t (t'.erase place) := by
  have below := ne_root off
  intro other node kind
  by_cases here : other = place
  · subst here
    rw [find?_erase _ below, ← same other node kind]
    constructor
    · intro h
      cases h
    · intro h
      rw [off node h] at kind
      cases kind
  · rw [find?_erase_of_ne _ here]
    exact same other node kind

end SameButFiles

end FileTree

end WasmBindings
