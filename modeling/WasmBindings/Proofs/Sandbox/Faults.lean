import WasmBindings.Proofs.Build.Running
import WasmBindings.Proofs.Sandbox.Changes
import WasmBindings.Sandbox.Platform

/-!
# Writes that fail

A sandbox in which the writing of files fails where it is told to, in one of two ways: the file is
not touched, or it is opened, and with that made or emptied, and then only a part of the contents is
written. Whatever else is done there is done as in any sandbox.
-/

namespace WasmBindings

/-- A way in which the writing of a file fails. -/
inductive WriteFault where
  /-- The file is not touched. -/
  | refused (error : IoError)
  /-- The file is opened, and so many bytes are written, or all if there are not so many. -/
  | torn (error : IoError) (count : Nat)
  deriving DecidableEq, Repr

namespace FileTree

variable {t t' : FileTree} {directory : Place} {p : Path} {contents : Bytes}
  {fault : Option WriteFault}

/-- Writes a file, with a fault or without. A file that cannot be opened is not touched anyway. -/
def writeFaulty (t : FileTree) (directory : Place) (p : Path) (contents : Bytes) :
    Option WriteFault → FileTree × Except IoError Unit
  | none =>
    match t.writeFile directory p contents with
    | .ok t => (t, .ok ())
    | .error error => (t, .error error)
  | some (.refused error) => (t, .error error)
  | some (.torn error count) =>
    match t.writeFile directory p (contents.take count) with
    | .ok t => (t, .error error)
    | .error error => (t, .error error)

/-- What is written with success is written without a fault. -/
theorem writeFaulty_eq_ok (h : t.writeFaulty directory p contents fault = (t', .ok ())) :
    fault = none ∧ t.writeFile directory p contents = .ok t' := by
  cases fault with
  | none =>
    dsimp only [writeFaulty] at h
    split at h
    · next written =>
      cases h
      exact ⟨rfl, written⟩
    · cases h
  | some fault =>
    cases fault with
    | refused error => cases h
    | torn error count =>
      dsimp only [writeFaulty] at h
      split at h
      · cases h
      · cases h

/-- What fails leaves the tree as it is, unless it is torn behind the opening of the file. -/
theorem writeFaulty_eq_error {error : IoError}
    (h : t.writeFaulty directory p contents fault = (t', .error error)) :
    (t' = t ∧ ∀ e count, fault = some (.torn e count) →
      ∃ e, t.writeFile directory p (contents.take count) = .error e) ∨
    ∃ count, fault = some (.torn error count) ∧
      t.writeFile directory p (contents.take count) = .ok t' := by
  cases fault with
  | none =>
    dsimp only [writeFaulty] at h
    split at h
    · cases h
    · cases h
      exact .inl ⟨rfl, fun _ _ torn => by cases torn⟩
  | some fault =>
    cases fault with
    | refused error =>
      cases h
      exact .inl ⟨rfl, fun _ _ torn => by cases torn⟩
    | torn error count =>
      dsimp only [writeFaulty] at h
      split at h
      · next written =>
        cases h
        exact .inr ⟨count, rfl, written⟩
      · next unopened =>
        cases h
        refine .inl ⟨rfl, fun e count torn => ?_⟩
        cases torn
        exact ⟨_, unopened⟩

/-- Removes a file, if that can be done. -/
def discard (t : FileTree) (directory : Place) (p : Path) : FileTree :=
  match t.removeFile directory p with
  | .ok t => t
  | .error _ => t

/-- Discarding a path leaves the tree as it is, or takes away the file or link that it leads to. -/
theorem discard_cases (t : FileTree) (directory : Place) (p : Path) :
    (t.discard directory p = t ∧ ∃ error, t.removeFile directory p = .error error) ∨
    ∃ follow place, t.place directory p follow = .ok place ∧ place ≠ [] ∧
      t.discard directory p = t.erase place ∧
      ((∃ contents mode, t.find? place = some (.file contents mode)) ∨
        ∃ target, t.find? place = some (.link target)) := by
  unfold discard
  cases removed : t.removeFile directory p with
  | error error => exact .inl ⟨rfl, error, rfl⟩
  | ok t' =>
    obtain ⟨follow, place, led, rfl, found⟩ := removeFile_eq_ok removed
    have below : place ≠ [] := by
      rintro rfl
      rw [find?_root] at found
      simp at found
    exact .inr ⟨follow, place, led, below, rfl, found⟩

end FileTree

namespace Sandbox

/-- The platform of a sandbox in which the writing of files fails as `faults` says for each path. -/
def faulty (faults : Path → Option WriteFault) : Platform (StateM Sandbox) :=
  { platform with
    writeFile := fun p contents s =>
      let (tree, outcome) := s.tree.writeFaulty s.home p contents (faults p)
      (outcome, { s with tree }) }

/-- Without faults, this is the platform of the sandbox itself. -/
theorem faulty_none : faulty (fun _ => none) = platform := by
  have write (p : Path) (contents : Bytes) (s : Sandbox) :
      (faulty fun _ => none).writeFile p contents s = platform.writeFile p contents s := by
    change (let (tree, outcome) := s.tree.writeFaulty s.home p contents none
      (outcome, { s with tree })) = changing (fun tree home => tree.writeFile home p contents) s
    dsimp only [FileTree.writeFaulty, changing]
    cases s.tree.writeFile s.home p contents <;> rfl
  have same : (faulty fun _ => none).writeFile = platform.writeFile :=
    funext fun p => funext fun contents => funext (write p contents)
  change { platform with writeFile := (faulty fun _ => none).writeFile } = platform
  rw [same]

variable {faults : Path → Option WriteFault} {s : Sandbox} {p : Path}

/-- Retracting a path removes the file, if that can be done, and reports on it. -/
theorem retract_eq : ∃ log, ((faulty faults).retract p s).2 =
    { s with tree := s.tree.discard s.home p, log } := by
  have remove : (faulty faults).removeFile p s =
      changing (fun tree home => tree.removeFile home p) s := rfl
  dsimp only [changing] at remove
  unfold Platform.retract FileTree.discard
  cases removed : s.tree.removeFile s.home p with
  | ok tree =>
    rw [removed] at remove
    rw [stateBind_apply remove]
    exact ⟨_, rfl⟩
  | error error =>
    rw [removed] at remove
    rw [stateBind_apply remove]
    exact ⟨_, rfl⟩

theorem tree_retract : ((faulty faults).retract p s).2.tree = s.tree.discard s.home p := by
  obtain ⟨log, h⟩ := @retract_eq faults s p
  rw [h]

theorem home_retract : ((faulty faults).retract p s).2.home = s.home := by
  obtain ⟨log, h⟩ := @retract_eq faults s p
  rw [h]

end Sandbox

end WasmBindings
