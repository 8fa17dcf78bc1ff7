import WasmBindings.Proofs.Sandbox.Faults

/-!
# Runs of writes

What becomes of a tree when files are written one after the other, some of them with faults, and
when paths are retracted. Two things are followed along such a run: a file that no path of the run
leads to (`FileTree.Kept`), in any tree, and a whole tree without links, which changes in files only
and only where paths of the run lead to (`FileTree.Touches`).

With links there is no such frame, as writing follows a link and retracting takes away the link
itself.
-/

namespace WasmBindings

/-- What stands at a place where something was written to what had stood there. -/
def Node.overwritten (contents : Bytes) : Option Node → Option Node
  | none => some (.file contents plainMode)
  | some (.file _ mode) => some (.file contents mode)
  | some other => some other

/-- What stands at a place after the writing of a file there has failed. -/
def WriteFault.leaves (contents : Bytes) (old : Option Node) : Option WriteFault → Option Node
  | some (.torn _ count) => Node.overwritten (contents.take count) old
  | _ => old

namespace FileTree

variable {t t' t'' made : FileTree} {home place : Place} {p : Path} {contents : Bytes}

/-! ## Files that no path leads to -/

/-- A file that is there still, in a tree with no other ways than an earlier one. -/
structure Kept (made : FileTree) (place : Place) (contents : Bytes) (mode : Nat) (t : FileTree) :
    Prop where
  ways : KeepsWays t made
  still : t.find? place = some (.file contents mode)

namespace Kept

variable {old : Bytes} {mode : Nat}

/-- A path leads elsewhere if it did so before. -/
theorem apart (kept : Kept made place old mode t) (there : made.find? place = some (.file old mode))
    (off : made.place home p ≠ .ok place) {follow : Bool} {other : Place}
    (led : t.place home p follow = .ok other) : place ≠ other := by
  rintro rfl
  refine off (place_mono kept.ways (fun _ => rfl) led fun target link => ?_)
  rw [there] at link
  cases link

theorem writeFile (kept : Kept made place old mode t)
    (there : made.find? place = some (.file old mode)) (off : made.place home p ≠ .ok place)
    (h : t.writeFile home p contents = .ok t') : Kept made place old mode t' := by
  obtain ⟨other, led, ⟨rfl, _⟩ | ⟨replaced, _, rfl⟩⟩ := writeFile_eq_ok h
  · exact kept
  · have below : other ≠ [] := by
      rintro rfl
      exact absurd (replaced _ (find?_root t)) (by decide)
    refine ⟨kept.ways.of_put rfl below, ?_⟩
    rw [find?_put_of_ne _ _ (kept.apart there off led)]
    exact kept.still

theorem discard (kept : Kept made place old mode t)
    (there : made.find? place = some (.file old mode)) (off : made.place home p ≠ .ok place) :
    Kept made place old mode (t.discard home p) := by
  rcases discard_cases t home p with ⟨same, _⟩ | ⟨_, other, led, below, erased, _⟩
  · rw [same]
    exact kept
  · rw [erased]
    refine ⟨kept.ways.of_erase below, ?_⟩
    rw [find?_erase_of_ne _ (kept.apart there off led)]
    exact kept.still

end Kept

/-! ## Files that paths lead to -/

/-- Changes of files that some paths lead to, in a tree without links. -/
structure Touches (made : FileTree) (home : Place) (paths : List Path) (t t' : FileTree) :
    Prop where
  same : SameButFiles made t'
  elsewhere : ∀ place, (∀ p ∈ paths, made.place home p ≠ .ok place) → t'.find? place = t.find? place

theorem Touches.refl (same : SameButFiles made t) (paths : List Path) :
    Touches made home paths t t :=
  ⟨same, fun _ _ => rfl⟩

theorem Touches.mono {paths paths' : List Path} (h : Touches made home paths t t')
    (sub : paths ⊆ paths') : Touches made home paths' t t' :=
  ⟨h.same, fun place off => h.elsewhere place fun p mem => off p (sub mem)⟩

theorem Touches.trans {paths : List Path} (first : Touches made home paths t t')
    (second : Touches made home paths t' t'') : Touches made home paths t t'' :=
  ⟨second.same, fun place off => (second.elsewhere place off).trans (first.elsewhere place off)⟩

theorem Touches.cons {paths : List Path} (first : Touches made home [p] t t')
    (others : Touches made home paths t' t'') : Touches made home (p :: paths) t t'' :=
  (first.mono (by simp)).trans (others.mono (by simp))

/-- A file with its contents stands where its path leads to, or something that keeps nothing. -/
def Stands (made : FileTree) (home : Place) (t : FileTree) (file : Path × Bytes) : Prop :=
  ∃ place, made.place home file.1 = .ok place ∧
    ((∃ mode, t.find? place = some (.file file.2 mode)) ∨
      ∃ device, made.find? place = some device ∧ device.isDevice)

/-- Writing a file touches that file alone. -/
theorem touches_writeFile (free : made.LinkFree) (same : SameButFiles made t)
    (h : t.writeFile home p contents = .ok t') :
    Touches made home [p] t t' ∧ Stands made home t' (p, contents) := by
  obtain ⟨place, led, ⟨rfl, device, there, keeps⟩ | ⟨replaced, mode, rfl⟩⟩ := writeFile_eq_ok h
  · have kind : device.isFile = false := by
      cases device with
      | file _ _ => cases keeps
      | _ => rfl
    exact ⟨.refl same _, place, (same.place_iff free).1 led, .inr
      ⟨device, (same place device kind).1 there, keeps⟩⟩
  · have off : ∀ old, t.find? place = some old → old.isFile := by
      intro old there
      rcases replaced old there with file | link
      · exact file
      · cases old with
        | link target => exact absurd there (same.linkFree free place target)
        | _ => cases link
    have led' := (same.place_iff free).1 led
    refine ⟨⟨same.put off, fun other away => find?_put_of_ne _ _ ?_⟩, place, led',
      .inl ⟨mode, find?_put _ _ (SameButFiles.ne_root off)⟩⟩
    rintro rfl
    exact away p (List.mem_singleton.2 rfl) led'

/-- What stands where a path leads to, after as much as could be written there. -/
theorem find?_of_writeFile (free : t.LinkFree) (file : p.endsInSlash = false)
    (led : t.place home p = .ok place) :
    (∀ t', t.writeFile home p contents = .ok t' →
      t'.find? place = Node.overwritten contents (t.find? place)) ∧
    ∀ error, t.writeFile home p contents = .error error →
      t.find? place = Node.overwritten contents (t.find? place) := by
  rw [writeFile_of_place contents file led]
  cases found : t.find? place with
  | none =>
    have below : place ≠ [] := ne_root_of_find? (by rw [found]; simp)
    refine ⟨fun t' h => ?_, fun _ h => by cases h⟩
    cases h
    exact find?_put _ _ below
  | some node =>
    cases node with
    | directory | program _ => exact ⟨fun _ h => (by cases h), fun _ _ => rfl⟩
    | file _ _ =>
      have below : place ≠ [] := ne_root_of_find? (by rw [found]; simp)
      refine ⟨fun t' h => ?_, fun _ h => by cases h⟩
      cases h
      exact find?_put _ _ below
    | link target => exact absurd found (free place target)
    | sink | zeros | stream _ =>
      refine ⟨fun t' h => ?_, fun _ h => by cases h⟩
      cases h
      exact found

/-- Whether no file stands where a path leads to. -/
def Clear (made : FileTree) (home : Place) (t : FileTree) (p : Path) : Prop :=
  ∀ place, made.place home p = .ok place →
    ∀ contents mode, t.find? place ≠ some (.file contents mode)

/-- Discarding a path touches its file alone, which is gone then. -/
theorem touches_discard (free : made.LinkFree) (same : SameButFiles made t)
    (file : p.endsInSlash = false) :
    Touches made home [p] t (t.discard home p) ∧ Clear made home (t.discard home p) p := by
  have free' := same.linkFree free
  rcases discard_cases t home p with ⟨kept, error, failed⟩ | ⟨_, place, led, below, erased, found⟩
  · rw [kept]
    refine ⟨.refl same _, fun place led old mode there => ?_⟩
    have led' := place_of_linkFree free' ((same.place_iff free).2 led) false
    rw [removeFile_of_file file led' there] at failed
    cases failed
  · rcases found with ⟨old, mode, there⟩ | ⟨target, link⟩
    · have off : ∀ node, t.find? place = some node → node.isFile := by
        intro node found
        rw [there] at found
        cases found
        rfl
      have led' := (same.place_iff free).1 (place_of_linkFree free' led true)
      rw [erased]
      refine ⟨⟨same.erase off, fun other away => find?_erase_of_ne _ ?_⟩,
        fun other led'' old mode there => ?_⟩
      · rintro rfl
        exact away p (List.mem_singleton.2 rfl) led'
      · rw [led'] at led''
        cases led''
        rw [find?_erase _ below] at there
        cases there
    · exact absurd link (free' place target)

/-- Nothing comes to stand anywhere when a path is discarded. -/
theorem find?_discard (t : FileTree) (home : Place) (p : Path) (place : Place) :
    (t.discard home p).find? place = t.find? place ∨ (t.discard home p).find? place = none := by
  rcases discard_cases t home p with ⟨same, _⟩ | ⟨_, gone, _, below, erased, _⟩
  · exact .inl (by rw [same])
  · rw [erased]
    by_cases here : place = gone
    · subst here
      exact .inr (find?_erase _ below)
    · exact .inl (find?_erase_of_ne _ here)

/-- Places stay clear when a path is discarded. -/
theorem Clear.discard {q : Path} (clear : Clear made home t q) :
    Clear made home (t.discard home p) q := by
  intro place led contents mode there
  rcases find?_discard t home p place with same | none
  · exact clear place led contents mode (same.symm.trans there)
  · cases none.symm.trans there

end FileTree

namespace Sandbox

open FileTree

variable {faults : Path → Option WriteFault} {s s' : Sandbox} {p : Path} {contents : Bytes}
  {made : FileTree} {home place : Place} {files : List (Path × Bytes)} {paths : List Path}

/-! ## Steps in a sandbox -/

theorem faulty_writeFile (faults : Path → Option WriteFault) (p : Path) (contents : Bytes)
    (s : Sandbox) : (faulty faults).writeFile p contents s =
      ((s.tree.writeFaulty s.home p contents (faults p)).2,
        { s with tree := (s.tree.writeFaulty s.home p contents (faults p)).1 }) := rfl

theorem writeFile_eq_ok (h : (faulty faults).writeFile p contents s = (.ok (), s')) :
    s'.home = s.home ∧ s.tree.writeFile s.home p contents = .ok s'.tree := by
  rw [faulty_writeFile, Prod.mk.injEq] at h
  obtain ⟨outcome, rfl⟩ := h
  exact ⟨rfl, (writeFaulty_eq_ok (Prod.ext rfl outcome)).2⟩

theorem writeFile_eq_error {error : IoError}
    (h : (faulty faults).writeFile p contents s = (.error error, s')) : s'.home = s.home ∧
      s.tree.writeFaulty s.home p contents (faults p) = (s'.tree, .error error) := by
  rw [faulty_writeFile, Prod.mk.injEq] at h
  obtain ⟨outcome, rfl⟩ := h
  exact ⟨rfl, Prod.ext rfl outcome⟩

/-- A failed write touches its file at most, and leaves there what its fault says. -/
theorem touches_of_writeFile_error {error : IoError} (free : made.LinkFree)
    (same : SameButFiles made s.tree) (here : s.home = home) (file : p.endsInSlash = false)
    (h : (faulty faults).writeFile p contents s = (.error error, s')) :
    Touches made home [p] s.tree s'.tree ∧ ∀ place, made.place home p = .ok place →
      s'.tree.find? place = WriteFault.leaves contents (s.tree.find? place) (faults p) := by
  have free' := same.linkFree free
  obtain ⟨_, failed⟩ := writeFile_eq_error h
  rw [here] at failed
  rcases writeFaulty_eq_error failed with ⟨tree, unopened⟩ | ⟨count, torn, written⟩
  · rw [tree]
    refine ⟨.refl same _, fun place led => ?_⟩
    have led' := (same.place_iff free).2 led
    cases fault : faults p with
    | none => rfl
    | some fault' =>
      cases fault' with
      | refused _ => rfl
      | torn e count =>
        obtain ⟨e, unopened⟩ := unopened e count fault
        exact (find?_of_writeFile free' file led').2 e unopened
  · refine ⟨(touches_writeFile free same written).1, fun place led => ?_⟩
    rw [torn]
    exact (find?_of_writeFile free' file ((same.place_iff free).2 led)).1 _ written

/-! ## Runs in a sandbox -/

theorem home_of_wrote (h : (faulty faults).Wrote s files s') : s'.home = s.home := by
  induction h with
  | nil => rfl
  | cons first _ ih => exact ih.trans (writeFile_eq_ok first).1

theorem kept_of_wrote {old : Bytes} {mode : Nat} (h : (faulty faults).Wrote s files s')
    (kept : Kept made place old mode s.tree) (there : made.find? place = some (.file old mode))
    (off : ∀ f ∈ files, made.place home f.1 ≠ .ok place) (here : s.home = home) :
    Kept made place old mode s'.tree := by
  induction h with
  | nil => exact kept
  | cons first _ ih =>
    obtain ⟨same, written⟩ := writeFile_eq_ok first
    rw [here] at written
    rw [List.forall_mem_cons] at off
    exact ih (kept.writeFile there off.1 written) off.2 (same.trans here)

theorem kept_of_retracted {old : Bytes} {mode : Nat} (kept : Kept made place old mode s.tree)
    (there : made.find? place = some (.file old mode))
    (off : ∀ p ∈ paths, made.place home p ≠ .ok place) (here : s.home = home) :
    Kept made place old mode ((faulty faults).retracted paths s).tree := by
  induction paths generalizing s with
  | nil => exact kept
  | cons path paths ih =>
    rw [List.forall_mem_cons] at off
    refine ih ?_ off.2 (home_retract.trans here)
    rw [tree_retract, here]
    exact kept.discard there off.1

/-- Files that are written one after the other stand in the end, if all have places of their own. -/
theorem touches_of_wrote (free : made.LinkFree) (same : SameButFiles made s.tree)
    (here : s.home = home)
    (apart : files.Pairwise fun f g => ∀ place, made.place home f.1 = .ok place →
      made.place home g.1 ≠ .ok place) (h : (faulty faults).Wrote s files s') :
    Touches made home (files.map (·.1)) s.tree s'.tree ∧
      ∀ f ∈ files, Stands made home s'.tree f := by
  induction h with
  | nil => exact ⟨.refl same _, by simp⟩
  | @cons s s₁ _ path contents rest first _ ih =>
    obtain ⟨home', written⟩ := writeFile_eq_ok first
    rw [here] at written
    obtain ⟨touches, place, led, there⟩ := touches_writeFile free same written
    rw [List.pairwise_cons] at apart
    obtain ⟨touches', others⟩ := ih touches.same (home'.trans here) apart.2
    refine ⟨touches.cons touches', ?_⟩
    rw [List.forall_mem_cons]
    refine ⟨⟨place, led, there.imp_left ?_⟩, others⟩
    -- those written later have other places
    have kept := touches'.elsewhere place
      (List.forall_mem_map.2 fun f mem => apart.1 f mem place led)
    rw [kept]
    exact id

theorem clear_retracted {q : Path} (here : s.home = home) (clear : Clear made home s.tree q) :
    Clear made home ((faulty faults).retracted paths s).tree q := by
  induction paths generalizing s with
  | nil => exact clear
  | cons path paths ih =>
    refine ih (home_retract.trans here) ?_
    rw [tree_retract, here]
    exact clear.discard

/-- No file is left where paths lead to that have been retracted. -/
theorem touches_retracted (faults : Path → Option WriteFault) (free : made.LinkFree)
    (same : SameButFiles made s.tree) (here : s.home = home)
    (files : ∀ p ∈ paths, p.endsInSlash = false) :
    Touches made home paths s.tree ((faulty faults).retracted paths s).tree ∧
      ∀ p ∈ paths, Clear made home ((faulty faults).retracted paths s).tree p := by
  induction paths generalizing s with
  | nil => exact ⟨.refl same _, by simp⟩
  | cons path paths ih =>
    rw [List.forall_mem_cons] at files
    have tree : ((faulty faults).retract path s).2.tree = s.tree.discard home path := by
      rw [tree_retract, here]
    have here' : ((faulty faults).retract path s).2.home = home := home_retract.trans here
    have first := @touches_discard _ _ home _ free same files.1
    rw [← tree] at first
    obtain ⟨touches, clear⟩ := first
    obtain ⟨touches', others⟩ := ih touches.same here' files.2
    have gone : Clear made home
        ((faulty faults).retracted paths ((faulty faults).retract path s).2).tree path :=
      clear_retracted here' clear
    exact ⟨touches.cons touches', List.forall_mem_cons.2 ⟨gone, others⟩⟩

end Sandbox

end WasmBindings
