import WasmBindings.Proofs.Sandbox.Runs

/-!
# Writing artifacts

Artifacts are written one file after the other, and when one of them cannot be written those before
it are removed. What that leaves is told apart by how the write failed (`Sandbox.Ending`). A file
that was not touched is as it was, but a file that was opened first stays behind with the part that
was written: only finished files are removed.

What stood in the place of a finished file is not kept anywhere. So a failed run loses the files
that it had replaced by then, and no others (`Sandbox.writeArtifacts_keeps`).
-/

namespace WasmBindings

/-! ## The paths of artifacts -/

namespace Path

theorem splitSlash_of_notMem {text : List Char} (h : '/' ∉ text) : splitSlash text = [text] := by
  fun_induction splitSlash text with
  | case1 => rfl
  | case2 rest => exact absurd List.mem_cons_self h
  | case3 c rest _ none ih =>
    rw [none] at ih
    exact absurd (ih fun mem => h (List.mem_cons_of_mem _ mem)) (by simp)
  | case4 c rest _ piece pieces split ih =>
    rw [split] at ih
    cases ih fun mem => h (List.mem_cons_of_mem _ mem)
    rfl

/-- What has no slash in it ends up in the last piece. -/
theorem splitSlash_append (front : List Char) {back : List Char} (h : '/' ∉ back) :
    ∃ pieces piece, splitSlash (front ++ back) = pieces ++ [piece ++ back] := by
  induction front with
  | nil => exact ⟨[], [], splitSlash_of_notMem h⟩
  | cons c front ih =>
    obtain ⟨pieces, piece, split⟩ := ih
    by_cases slash : c = '/'
    · subst slash
      refine ⟨[] :: pieces, piece, ?_⟩
      rw [List.cons_append, splitSlash, split]
      rfl
    · rw [List.cons_append, splitSlash, split]
      · cases pieces with
        | nil => exact ⟨[], c :: piece, rfl⟩
        | cons first pieces => exact ⟨(c :: first) :: pieces, piece, rfl⟩
      · exact slash

/-- How the path of an artifact ends. -/
structure EndsIn (p : Path) (ending : List Char) : Prop where
  file : p.endsInSlash = false
  last : ∃ piece, p.segments.getLast? = some (String.ofList (piece ++ ending))

theorem endsIn_of_text {p : Path} {front : List Char} {ending : String} (c : Char)
    (text : p.text.toList = front ++ ending.toList) (plain : '/' ∉ ending.toList)
    (last : ending.toList.getLast? = some c) : p.EndsIn ending.toList := by
  have named : ending.toList ≠ [] := by
    intro none
    rw [none] at last
    cases last
  constructor
  · rw [endsInSlash, text, List.getLast?_append, last]
    have other : c ≠ '/' := fun same => plain (same ▸ List.mem_of_getLast? last)
    simpa using other
  · obtain ⟨pieces, piece, split⟩ := splitSlash_append front plain
    have full : [piece ++ ending.toList].filter (· ≠ []) = [piece ++ ending.toList] := by
      simp [named]
    refine ⟨piece, ?_⟩
    rw [segments, text, split, List.filter_append, full, List.map_append]
    exact List.getLast?_concat

/-- A name with an ending has that ending in every directory. -/
theorem endsIn_join (directory : Path) (name : String) {ending : String} (c : Char)
    (plain : '/' ∉ ending.toList) (last : ending.toList.getLast? = some c) :
    (directory.join ⟨name ++ ending⟩).EndsIn ending.toList := by
  unfold join
  split
  · exact endsIn_of_text c String.toList_append plain last
  · split
    · refine endsIn_of_text c (?_ : _ = (directory.text.toList ++ name.toList) ++ _) plain last
      simp
    · refine endsIn_of_text c (?_ : _ = (directory.text.toList ++ '/' :: name.toList) ++ _) plain
        last
      simp

/-- Without links the place has the ending as well, if that is too long for a dot or two. -/
theorem EndsIn.place {t : FileTree} {p : Path} {ending : List Char} {home place : Place}
    {follow : Bool} (ends : p.EndsIn ending) (free : t.LinkFree) (long : 2 < ending.length)
    (h : t.place home p follow = .ok place) :
    ∃ piece, place.getLast? = some (String.ofList (piece ++ ending)) := by
  obtain ⟨piece, last⟩ := ends.last
  have other (short : List Char) (few : short.length ≤ 2) :
      String.ofList (piece ++ ending) ≠ String.ofList short := by
    intro same
    have lengths := congrArg (·.toList.length) same
    simp only [String.toList_ofList, List.length_append] at lengths
    omega
  exact ⟨piece, FileTree.getLast?_of_place free last (other ['.'] (by decide))
    (other ['.', '.'] (by decide)) h⟩

end Path

namespace Artifacts

variable {artifacts : Artifacts} {name : String} {out : Path}

theorem endsInSlash_files : ∀ f ∈ artifacts.files name out, f.1.endsInSlash = false := by
  cases artifacts with
  | binary contents =>
    intro f mem
    rw [files, List.mem_singleton] at mem
    rw [mem]
    exact (out.endsIn_join name 'm' (by decide) (by decide)).file
  | bindings wrapper declarations =>
    rw [files, List.forall_mem_cons]
    refine ⟨(out.endsIn_join name 's' (by decide) (by decide)).file, fun f mem => ?_⟩
    obtain ⟨text, _, rfl⟩ := List.mem_map.1 mem
    exact (out.endsIn_join name 's' (by decide) (by decide)).file

/-- Without links, a wrapper and its declarations never get the same place. -/
theorem apart_files {t : FileTree} (free : t.LinkFree) (home : Place) :
    (artifacts.files name out).Pairwise fun f g => ∀ place, t.place home f.1 = .ok place →
      t.place home g.1 ≠ .ok place := by
  cases artifacts with
  | binary contents => exact List.pairwise_singleton _ _
  | bindings wrapper declarations =>
    cases declarations with
    | none => exact List.pairwise_singleton _ _
    | some text =>
      refine List.pairwise_pair.2 fun place led led' => ?_
      have js : (out.join ⟨name ++ ".js"⟩).EndsIn ".js".toList :=
        out.endsIn_join name 's' (by decide) (by decide)
      have dts : (out.join ⟨name ++ ".d.ts"⟩).EndsIn ".d.ts".toList :=
        out.endsIn_join name 's' (by decide) (by decide)
      obtain ⟨piece, last⟩ := js.place free (by decide) led
      obtain ⟨piece', last'⟩ := dts.place free (by decide) led'
      rw [last, Option.some.injEq, String.ofList_inj] at last'
      -- the letters before the last one differ
      have second := congrArg (·.reverse[1]?) last'
      simp at second

end Artifacts

namespace Sandbox

open FileTree

variable {faults : Path → Option WriteFault} {s s' : Sandbox} {home : Place} {out : Path}
  {files : List (Path × Bytes)} {made after : FileTree}

/-! ## The directory of artifacts -/

/-- The tree once a directory for artifacts has been made, as far as it can be. -/
def withDirectory (s : Sandbox) (out : Path) : FileTree :=
  (s.tree.createDirectories s.home out).1

theorem grows_withDirectory (s : Sandbox) (out : Path) : Grows s.tree (s.withDirectory out) :=
  (makeFirst_growsAlong s.tree s.home out.ancestors).grows

theorem attempt_createDirectories (faults : Path → Option WriteFault) (s : Sandbox) (out : Path) :
    attempt (BuildError.io out) ((faulty faults).createDirectories out) s =
      ((s.tree.createDirectories s.home out).2.mapError (.io out),
        { s with tree := s.withDirectory out }) := rfl

theorem writeArtifacts_of_error {error : IoError}
    (failed : (s.tree.createDirectories s.home out).2 = .error error) (name : String)
    (artifacts : Artifacts) : (faulty faults).writeArtifacts name artifacts out s =
      (.error (.io out error), { s with tree := s.withDirectory out }) := by
  have made := attempt_createDirectories faults s out
  rw [failed] at made
  rw [Platform.writeArtifacts, bind_apply_of_error made]

theorem writeArtifacts_of_ok (done : (s.tree.createDirectories s.home out).2 = .ok ())
    (name : String) (artifacts : Artifacts) : (faulty faults).writeArtifacts name artifacts out s =
      (faulty faults).writeFiles [] (artifacts.files name out)
        { s with tree := s.withDirectory out } := by
  have made := attempt_createDirectories faults s out
  rw [done] at made
  rw [Platform.writeArtifacts, bind_apply_of_ok made]

/-! ## What is left behind -/

/-- How the writing of artifacts ends, in a tree where their directory has been made as far as it
can be. -/
inductive Ending (faults : Path → Option WriteFault) (home : Place) (out : Path)
    (files : List (Path × Bytes)) (made : FileTree) :
    Except BuildError (List Path) → FileTree → Prop
  /-- There is no directory for them. -/
  | unplaced {error : IoError} : Ending faults home out files made (.error (.io out error)) made
  /-- All files are written, and no other file is touched. -/
  | whole {after : FileTree} (touches : Touches made home (files.map (·.1)) made after)
      (stand : ∀ f ∈ files, Stands made home after f) :
      Ending faults home out files made (.ok (files.map (·.1))) after
  /-- A file could not be written. The files before it are gone, what is left of itself depends on
  how that failed, and no other file is touched. -/
  | undone {before later : List (Path × Bytes)} {path : Path} {contents : Bytes} {error : IoError}
      {after : FileTree} (split : files = before ++ (path, contents) :: later)
      (touches : Touches made home (before.map (·.1) ++ [path]) made after)
      (gone : ∀ f ∈ before, Clear made home after f.1)
      (left : ∀ place, made.place home path = .ok place →
        after.find? place = WriteFault.leaves contents (made.find? place) (faults path)) :
      Ending faults home out files made (.error (.io path error)) after

/-- Files with places of their own, written one after the other. -/
theorem ending_writeFiles (free : s.tree.LinkFree) (out : Path)
    (plain : ∀ f ∈ files, f.1.endsInSlash = false)
    (apart : files.Pairwise fun f g => ∀ place, s.tree.place s.home f.1 = .ok place →
      s.tree.place s.home g.1 ≠ .ok place) :
    Ending faults s.home out files s.tree ((faulty faults).writeFiles [] files s).1
      ((faulty faults).writeFiles [] files s).2.tree := by
  have run := Platform.writing_writeFiles (faulty faults) [] s files
  generalize (faulty faults).writeFiles [] files s = ended at run ⊢
  cases run with
  | whole wrote =>
    obtain ⟨touches, stand⟩ := touches_of_wrote free (.refl _) rfl apart wrote
    exact .whole touches stand
  | @stopped before later path contents error s₁ s₂ split wrote failed =>
    rw [split] at plain apart
    rw [List.pairwise_append] at apart
    obtain ⟨apart, _, others⟩ := apart
    have home₁ := home_of_wrote wrote
    have home₂ := (writeFile_eq_error failed).1.trans home₁
    obtain ⟨touches₁, _⟩ := touches_of_wrote free (.refl _) rfl apart wrote
    obtain ⟨touches₂, left⟩ := touches_of_writeFile_error free touches₁.same home₁
      (plain (path, contents) (by simp)) failed
    obtain ⟨touches₃, gone⟩ := touches_retracted faults free touches₂.same home₂
      (List.forall_mem_map.2 fun f mem => plain f (List.mem_append_left _ mem))
    refine .undone split ?_ (List.forall_mem_map.1 gone) fun place led => ?_
    · exact ((touches₁.mono (by simp)).trans (touches₂.mono (by simp))).trans
        (touches₃.mono (by simp))
    · -- no other file of the run has this place
      have off : ∀ p ∈ before.map (·.1), s.tree.place s.home p ≠ .ok place :=
        List.forall_mem_map.2 fun f mem led' => others f mem _ List.mem_cons_self place led' led
      rw [List.nil_append, touches₃.elsewhere place off, left place led,
        touches₁.elsewhere place off]

/-- **What the writing of artifacts leaves behind,** without links, whatever writes fail and however
they do. -/
theorem writeArtifacts_ends (faults : Path → Option WriteFault) (s : Sandbox)
    (free : s.tree.LinkFree) (name : String) (artifacts : Artifacts) (out : Path) :
    Grows s.tree (s.withDirectory out) ∧
      Ending faults s.home out (artifacts.files name out) (s.withDirectory out)
        ((faulty faults).writeArtifacts name artifacts out s).1
        ((faulty faults).writeArtifacts name artifacts out s).2.tree := by
  have grows := grows_withDirectory s out
  refine ⟨grows, ?_⟩
  cases created : (s.tree.createDirectories s.home out).2 with
  | error error =>
    rw [writeArtifacts_of_error created]
    exact .unplaced
  | ok _ =>
    rw [writeArtifacts_of_ok created]
    have free' := grows.linkFree free
    exact @ending_writeFiles faults { s with tree := s.withDirectory out } _ free' out
      Artifacts.endsInSlash_files (Artifacts.apart_files free' s.home)

/-- Declarations that cannot be written. The wrapper is removed then. -/
theorem writeArtifacts_of_unwritten {name text : String} {wrapper : Wrapper} {t t' t'' : FileTree}
    {error : IoError} (made : s.tree.createDirectories s.home out = (t, .ok ()))
    (sound : faults (out.join ⟨name ++ ".js"⟩) = none)
    (whole : t.writeFile s.home (out.join ⟨name ++ ".js"⟩) (Utf8.encode wrapper.source) = .ok t')
    (failed : t'.writeFaulty s.home (out.join ⟨name ++ ".d.ts"⟩) (Utf8.encode text)
      (faults (out.join ⟨name ++ ".d.ts"⟩)) = (t'', .error error)) :
    ∃ log, (faulty faults).writeArtifacts name (.bindings wrapper (some text)) out s =
      (.error (.io (out.join ⟨name ++ ".d.ts"⟩) error),
        { s with tree := t''.discard s.home (out.join ⟨name ++ ".js"⟩), log }) := by
  have ready : s.withDirectory out = t := congrArg Prod.fst made
  have js : (faulty faults).writeFile (out.join ⟨name ++ ".js"⟩) (Utf8.encode wrapper.source)
      { s with tree := t } = (.ok (), { s with tree := t' }) := by
    rw [faulty_writeFile, sound]
    simp only [writeFaulty, whole]
  let path := out.join ⟨name ++ ".js"⟩
  let log := s.log ++ [⟨.info, s!"wrote {path.text}"⟩]
  have dts : (faulty faults).writeFile (out.join ⟨name ++ ".d.ts"⟩) (Utf8.encode text)
      { s with tree := t', log } = (.error error, { s with tree := t'', log }) := by
    rw [faulty_writeFile]
    simp only [failed]
  obtain ⟨log', retracted⟩ := @retract_eq faults { s with tree := t'', log }
    (out.join ⟨name ++ ".js"⟩)
  refine ⟨log', ?_⟩
  rw [writeArtifacts_of_ok (congrArg Prod.snd made), ready, Artifacts.files,
    Platform.writeFiles_cons_of_ok js]
  exact (Platform.writeFiles_cons_of_error dts).trans (Prod.ext rfl retracted)

/-- Nothing but a working directory. -/
def workplace : Sandbox where
  tree := ⟨[(["work"], .directory)]⟩
  home := ["work"]
  searchPath := []

theorem linkFree_workplace : workplace.tree.LinkFree :=
  linkFree_of_entries (by decide)

/-- The artifacts of a wrapper with declarations. -/
def bothArtifacts : Artifacts := .bindings ⟨"x", "instantiate"⟩ (some "export {};")

/-- A disk that is full when the declarations are written. -/
def fullDisk (p : Path) : Option WriteFault :=
  if p = ⟨"out/lib.d.ts"⟩ then some (.torn (.other "No space left on device (os error 28)") 6)
  else none

theorem writeArtifacts_ends_fullDisk : workplace.tree.LinkFree ∧
    Grows workplace.tree (workplace.withDirectory ⟨"out"⟩) ∧
    Ending fullDisk ["work"] ⟨"out"⟩ (bothArtifacts.files "lib" ⟨"out"⟩)
      (workplace.withDirectory ⟨"out"⟩)
      ((faulty fullDisk).writeArtifacts "lib" bothArtifacts ⟨"out"⟩ workplace).1
      ((faulty fullDisk).writeArtifacts "lib" bothArtifacts ⟨"out"⟩ workplace).2.tree :=
  ⟨linkFree_workplace, writeArtifacts_ends _ _ linkFree_workplace _ _ _⟩

/-- The working directory with a directory for artifacts. -/
def readyTree : FileTree := workplace.tree.put ["work", "out"] .directory

/-- The same with a wrapper. -/
def wrapperTree : FileTree :=
  readyTree.put ["work", "out", "lib.js"] (.file (Utf8.encode "x") Node.plainMode)

/-- The same with a part of the declarations as well. -/
def tornTree : FileTree :=
  wrapperTree.put ["work", "out", "lib.d.ts"] (.file (Utf8.encode "export") Node.plainMode)

theorem writeFaulty_wrapperTree : wrapperTree.writeFaulty ["work"] ⟨"out/lib.d.ts"⟩
    (Utf8.encode "export {};") (fullDisk ⟨"out/lib.d.ts"⟩) =
      (tornTree, .error (.other "No space left on device (os error 28)")) := by
  have part : (Utf8.encode "export {};").take 6 = Utf8.encode "export" := by decide
  have opened : wrapperTree.writeFile ["work"] ⟨"out/lib.d.ts"⟩ (Utf8.encode "export") =
      .ok tornTree :=
    writeFile_of_none _ rfl (place_of_leadsDown rfl rfl rfl) rfl
  rw [fullDisk, if_pos rfl]
  simp only [writeFaulty, part, opened]

/-- **A file that is opened before its writing fails stays behind,** and so does a new directory. -/
theorem writeArtifacts_leaves_torn : workplace.tree.LinkFree ∧
    workplace.tree.find? ["work", "out"] = none ∧
    ∃ after, (faulty fullDisk).writeArtifacts "lib" bothArtifacts ⟨"out"⟩ workplace =
        (.error (.io ⟨"out/lib.d.ts"⟩ (.other "No space left on device (os error 28)")), after) ∧
      after.tree.find? ["work", "out"] = some .directory ∧
      after.tree.find? ["work", "out", "lib.js"] = none ∧
      after.tree.find? ["work", "out", "lib.d.ts"] =
        some (.file (Utf8.encode "export") Node.plainMode) := by
  have made : workplace.tree.createDirectories ["work"] ⟨"out"⟩ = (readyTree, .ok ()) :=
    makeFirst_of_none [⟨""⟩] rfl (place_of_leadsDown rfl rfl rfl) rfl
  have whole : readyTree.writeFile ["work"] ⟨"out/lib.js"⟩ (Utf8.encode "x") = .ok wrapperTree :=
    writeFile_of_none _ rfl (place_of_leadsDown rfl rfl rfl) rfl
  have removed : tornTree.removeFile ["work"] ⟨"out/lib.js"⟩ =
      .ok (tornTree.erase ["work", "out", "lib.js"]) :=
    removeFile_of_file rfl (place_of_leadsDown rfl rfl rfl) rfl
  have left : tornTree.discard ["work"] ⟨"out/lib.js"⟩ =
      tornTree.erase ["work", "out", "lib.js"] := by
    rw [FileTree.discard, removed]
  obtain ⟨log, run⟩ := @writeArtifacts_of_unwritten fullDisk workplace ⟨"out"⟩ "lib" "export {};"
    ⟨"x", "instantiate"⟩ _ _ _ _ made rfl whole writeFaulty_wrapperTree
  refine ⟨linkFree_workplace, rfl, _, run, ?_⟩
  change (tornTree.discard ["work"] ⟨"out/lib.js"⟩).find? _ = _ ∧
    (tornTree.discard ["work"] ⟨"out/lib.js"⟩).find? _ = _ ∧
    (tornTree.discard ["work"] ⟨"out/lib.js"⟩).find? _ = _
  rw [left]
  exact ⟨rfl, rfl, rfl⟩

/-! ## What is lost -/

/-- The files that were written before an error, when each file is written in turn. -/
inductive WrittenBefore (out : Path) (files : List (Path × Bytes)) :
    List (Path × Bytes) → BuildError → Prop
  | directory {error : IoError} : WrittenBefore out files [] (.io out error)
  | file {before later : List (Path × Bytes)} {path : Path} {contents : Bytes} {error : IoError}
      (split : files = before ++ (path, contents) :: later) :
      WrittenBefore out files before (.io path error)

/-- **A failed writing of artifacts loses no file,** other than those that it had replaced before it
failed, if nothing that fails touches its own file. -/
theorem writeArtifacts_keeps {refusals : Path → Option IoError} {name : String}
    {artifacts : Artifacts} {error : BuildError}
    (h : (faulty fun p => (refusals p).map .refused).writeArtifacts name artifacts out s =
      (.error error, s')) :
    ∃ before, WrittenBefore out (artifacts.files name out) before error ∧
      ∀ place contents mode, s.tree.find? place = some (.file contents mode) →
        (∀ f ∈ before, (s.withDirectory out).place s.home f.1 ≠ .ok place) →
        s'.tree.find? place = some (.file contents mode) := by
  have grows := grows_withDirectory s out
  cases created : (s.tree.createDirectories s.home out).2 with
  | error e =>
    rw [writeArtifacts_of_error created] at h
    cases h
    exact ⟨[], .directory, fun place contents mode there _ => grows.find? there⟩
  | ok _ =>
    rw [writeArtifacts_of_ok created] at h
    have run := Platform.writing_writeFiles (faulty fun p => (refusals p).map .refused) []
      { s with tree := s.withDirectory out } (artifacts.files name out)
    rw [h] at run
    cases run with
    | @stopped before later path contents e s₁ s₂ split wrote failed =>
    refine ⟨before, .file split, fun place old mode there off => ?_⟩
    have there' := grows.find? there
    have kept : Kept (s.withDirectory out) place old mode s₁.tree :=
      kept_of_wrote wrote ⟨.refl _, there'⟩ there' off rfl
    have home₁ := home_of_wrote wrote
    obtain ⟨home₂, failed⟩ := writeFile_eq_error failed
    have same : s₂.tree = s₁.tree := by
      rcases writeFaulty_eq_error failed with ⟨same, _⟩ | ⟨_, torn, _⟩
      · exact same
      · cases refused : refusals path <;> rw [refused] at torn <;> cases torn
    rw [← same] at kept
    exact (kept_of_retracted kept there' (List.forall_mem_map.2 off) (home₂.trans home₁)).still

/-- What was written before an error is among the files that were to be written. -/
theorem WrittenBefore.subset {files before : List (Path × Bytes)} {error : BuildError}
    (h : WrittenBefore out files before error) : before ⊆ files := by
  cases h with
  | directory => exact List.nil_subset _
  | file split =>
    rw [split]
    exact List.subset_append_left _ _

/-- A working directory where an earlier build has left a wrapper, next to a file of another kind,
and where a directory stands in the way of declarations. -/
def occupied : Sandbox where
  tree := ⟨[(["work"], .directory), (["work", "out"], .directory),
    (["work", "out", "lib.js"], .file (Utf8.encode "old") Node.plainMode),
    (["work", "out", "notes"], .file (Utf8.encode "mine") Node.plainMode),
    (["work", "out", "lib.d.ts"], .directory)]⟩
  home := ["work"]
  searchPath := []

/-- The same, once the wrapper has been replaced. -/
def replacedTree : FileTree :=
  occupied.tree.put ["work", "out", "lib.js"] (.file (Utf8.encode "x") Node.plainMode)

theorem createDirectories_occupied :
    occupied.tree.createDirectories ["work"] ⟨"out"⟩ = (occupied.tree, .ok ()) :=
  makeFirst_of_directory [⟨""⟩] rfl (place_of_leadsDown rfl rfl rfl) rfl
    (resolve_of_leadsDown rfl rfl rfl rfl)

theorem place_occupied_wrapper :
    occupied.tree.place ["work"] ⟨"out/lib.js"⟩ = .ok ["work", "out", "lib.js"] :=
  place_of_leadsDown rfl rfl rfl

/-- Nothing is refused there, but the declarations cannot be written. -/
theorem writeArtifacts_occupied : ∃ log,
    (faulty fun p => ((fun _ => none : Path → Option IoError) p).map .refused).writeArtifacts "lib"
        bothArtifacts ⟨"out"⟩ occupied =
      (.error (.io ⟨"out/lib.d.ts"⟩ .isADirectory),
        { occupied with tree := replacedTree.erase ["work", "out", "lib.js"], log }) := by
  have whole : occupied.tree.writeFile ["work"] ⟨"out/lib.js"⟩ (Utf8.encode "x") =
      .ok replacedTree := by
    rw [writeFile_of_place _ rfl place_occupied_wrapper]
    rfl
  have failed : replacedTree.writeFaulty ["work"] ⟨"out/lib.d.ts"⟩ (Utf8.encode "export {};") none =
      (replacedTree, .error .isADirectory) := by
    have led : replacedTree.place ["work"] ⟨"out/lib.d.ts"⟩ = .ok ["work", "out", "lib.d.ts"] :=
      place_of_leadsDown rfl rfl rfl
    have refused : replacedTree.writeFile ["work"] ⟨"out/lib.d.ts"⟩ (Utf8.encode "export {};") =
        .error .isADirectory := by
      rw [writeFile_of_place _ rfl led]
      rfl
    simp only [writeFaulty, refused]
  have removed : replacedTree.removeFile ["work"] ⟨"out/lib.js"⟩ =
      .ok (replacedTree.erase ["work", "out", "lib.js"]) :=
    removeFile_of_file rfl (place_of_leadsDown rfl rfl rfl) rfl
  have left : replacedTree.discard ["work"] ⟨"out/lib.js"⟩ =
      replacedTree.erase ["work", "out", "lib.js"] := by
    rw [FileTree.discard, removed]
  rw [← left]
  exact writeArtifacts_of_unwritten createDirectories_occupied rfl whole failed

/-- What is kept there: the file next to the artifacts still stands. -/
theorem writeArtifacts_keeps_occupied : ∃ s' before,
    (faulty fun p => ((fun _ => none : Path → Option IoError) p).map .refused).writeArtifacts "lib"
        bothArtifacts ⟨"out"⟩ occupied = (.error (.io ⟨"out/lib.d.ts"⟩ .isADirectory), s') ∧
      WrittenBefore ⟨"out"⟩ (bothArtifacts.files "lib" ⟨"out"⟩) before
        (.io ⟨"out/lib.d.ts"⟩ .isADirectory) ∧
      (∀ place contents mode, occupied.tree.find? place = some (.file contents mode) →
        (∀ f ∈ before, (occupied.withDirectory ⟨"out"⟩).place ["work"] f.1 ≠ .ok place) →
        s'.tree.find? place = some (.file contents mode)) ∧
      occupied.tree.find? ["work", "out", "notes"] =
        some (.file (Utf8.encode "mine") Node.plainMode) ∧
      s'.tree.find? ["work", "out", "notes"] =
        some (.file (Utf8.encode "mine") Node.plainMode) := by
  obtain ⟨log, run⟩ := writeArtifacts_occupied
  obtain ⟨before, written, kept⟩ := writeArtifacts_keeps run
  have there : occupied.tree.find? ["work", "out", "notes"] =
      some (.file (Utf8.encode "mine") Node.plainMode) := rfl
  have ready : occupied.withDirectory ⟨"out"⟩ = occupied.tree :=
    congrArg Prod.fst createDirectories_occupied
  have files : bothArtifacts.files "lib" ⟨"out"⟩ = [(⟨"out/lib.js"⟩, Utf8.encode "x"),
      (⟨"out/lib.d.ts"⟩, Utf8.encode "export {};")] := rfl
  have declarations : occupied.tree.place ["work"] ⟨"out/lib.d.ts"⟩ =
      .ok ["work", "out", "lib.d.ts"] := place_of_leadsDown rfl rfl rfl
  have apart : ∀ f ∈ before,
      (occupied.withDirectory ⟨"out"⟩).place ["work"] f.1 ≠ .ok ["work", "out", "notes"] := by
    intro f mem
    have listed := written.subset mem
    rw [files, List.mem_cons, List.mem_singleton] at listed
    rw [ready]
    intro same
    rcases listed with rfl | rfl
    · exact absurd (Except.ok.inj (place_occupied_wrapper.symm.trans same)) (by decide)
    · exact absurd (Except.ok.inj (declarations.symm.trans same)) (by decide)
  exact ⟨_, before, run, written, kept, there, kept _ _ _ there apart⟩

/-- **The wrapper of an earlier build is lost** if new declarations cannot be written. -/
theorem writeArtifacts_loses_replaced : ∃ s',
    (faulty fun p => ((fun _ => none : Path → Option IoError) p).map .refused).writeArtifacts "lib"
        bothArtifacts ⟨"out"⟩ occupied = (.error (.io ⟨"out/lib.d.ts"⟩ .isADirectory), s') ∧
      occupied.tree.find? ["work", "out", "lib.js"] =
        some (.file (Utf8.encode "old") Node.plainMode) ∧
      s'.tree.find? ["work", "out", "lib.js"] = none := by
  obtain ⟨log, run⟩ := writeArtifacts_occupied
  exact ⟨_, run, rfl, rfl⟩

end Sandbox

end WasmBindings
