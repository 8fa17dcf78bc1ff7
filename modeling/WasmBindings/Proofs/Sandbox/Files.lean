import WasmBindings.Sandbox.FileTree

/-!
# Finding files in a tree

Where a path leads to in a file tree, in the plain case: the names of the path lead down through
directories, without links on the way (`FileTree.leadsDown`). That can be computed, and what is read
and written at the end of such a path follows from it without walking the tree again.
-/

namespace WasmBindings

/-- Whether this is a link. -/
def Node.isLink : Node → Bool
  | link _ => true
  | _ => false

namespace FileTree

/-! ## Where paths lead to -/

theorem requireDirectory_of_find? {t : FileTree} {place : Place}
    (h : t.find? place = some .directory) : t.requireDirectory place = .ok () := by
  rw [requireDirectory, h]

/-- What is found at the place that a path leads to stands at the path. -/
theorem node_of_find? {t : FileTree} {directory place : Place} {p : Path} {found : Node}
    (h : t.resolve directory p = .ok place) (there : t.find? place = some found) :
    t.node directory p = .ok found := by
  simp only [node, h, there, bind, Except.bind]
  rfl

theorem node_of_missing {t : FileTree} {directory place : Place} {p : Path}
    (h : t.resolve directory p = .ok place) (missing : t.find? place = none) :
    t.node directory p = .error .notFound := by
  simp only [node, h, missing, bind, Except.bind]
  rfl

/-- An absolute path leads to the same place from everywhere. -/
theorem resolve_of_isAbsolute (t : FileTree) {p : Path} (h : p.isAbsolute) (one other : Place) :
    t.resolve one p = t.resolve other p := by
  simp only [resolve, place, h, if_true]

/-- What is read depends on the directory only through the place that it leads to. -/
theorem readFile_congr {t : FileTree} {p : Path} {one other : Place}
    (h : t.resolve one p = t.resolve other p) : t.readFile one p = t.readFile other p := by
  unfold readFile node
  rw [h]

/-- Whether a name leads down from a place: this is a directory, and the name no link in it. -/
def leadsTo (t : FileTree) (place : Place) (name : String) : Bool :=
  decide (t.find? place = some .directory ∧ name ≠ "." ∧ name ≠ ".." ∧
    name.utf8ByteSize ≤ nameLimit) && !(t.find? (place ++ [name])).any Node.isLink

/-- Whether some names lead down from a place, one after the other. -/
def leadsDown (t : FileTree) (place : Place) : List String → Bool
  | [] => true
  | name :: rest => t.leadsTo place name && t.leadsDown (place ++ [name]) rest

theorem walk_cons_of_leadsTo {t : FileTree} {follow : Bool} {links : Nat} {place : Place}
    {name : String} {rest : List String} (h : t.leadsTo place name) :
    t.walk follow links place (name :: rest) = t.walk follow links (place ++ [name]) rest := by
  simp only [leadsTo, Bool.and_eq_true, decide_eq_true_eq, Bool.not_eq_true'] at h
  obtain ⟨⟨directory, dot, dots, short⟩, plain⟩ := h
  rw [walk, requireDirectory_of_find? directory]
  change (if name = "." then _ else if name = ".." then _ else
    if name.utf8ByteSize > nameLimit then _ else _) = _
  rw [if_neg dot, if_neg dots, if_neg (Nat.not_lt.2 short)]
  dsimp only
  cases found : t.find? (place ++ [name]) with
  | none => cases links <;> rfl
  | some node =>
    cases node with
    | link target =>
      rw [found] at plain
      cases plain
    | _ => cases links <;> rfl

/-- Names that lead down are walked to their end. -/
theorem walk_of_leadsDown {t : FileTree} {follow : Bool} {links : Nat} {place : Place}
    {names : List String} (h : t.leadsDown place names) :
    t.walk follow links place names = .ok (place ++ names) := by
  induction names generalizing place with
  | nil => rw [walk, List.append_nil]
  | cons name rest ih =>
    obtain ⟨first, further⟩ := (Bool.and_eq_true _ _).mp h
    rw [walk_cons_of_leadsTo first, ih further, List.append_assoc]
    rfl

/-- Nothing is found behind a name that nothing has. -/
theorem readFile_of_missing {t : FileTree} {directory : Place} {p : Path} {name next : String}
    {rest : List String} (right : pathError? p = none) (relative : p.isAbsolute = false)
    (segments : p.segments = name :: next :: rest) (h : t.leadsTo directory name)
    (none : t.find? (directory ++ [name]) = none) :
    t.readFile directory p = .error .notFound := by
  have missing (follow : Bool) : t.place directory p follow = .error .notFound := by
    rw [place, right, segments, relative]
    change t.walk follow linkLimit directory (name :: next :: rest) = _
    have here : t.requireDirectory (directory ++ [name]) = .error .notFound := by
      rw [requireDirectory, none]
    rw [walk_cons_of_leadsTo h, walk, here]
    rfl
  unfold readFile node resolve
  rw [missing]
  rfl

/-- A path with nothing wrong in it, along names that lead down, ends where they do. -/
theorem place_of_leadsDown {t : FileTree} {directory base : Place} {p : Path} {follow : Bool}
    (right : pathError? p = none) (start : (if p.isAbsolute then [] else directory) = base)
    (h : t.leadsDown base p.segments) : t.place directory p follow = .ok (base ++ p.segments) := by
  rw [place, right]
  change t.walk follow linkLimit (if p.isAbsolute then [] else directory) p.segments = _
  rw [start]
  exact walk_of_leadsDown h

theorem resolve_of_leadsDown {t : FileTree} {directory base : Place} {p : Path}
    (right : pathError? p = none) (file : p.endsInSlash = false)
    (start : (if p.isAbsolute then [] else directory) = base) (h : t.leadsDown base p.segments) :
    t.resolve directory p = .ok (base ++ p.segments) := by
  unfold resolve
  rw [file, place_of_leadsDown right start h]
  simp only [Bool.false_eq_true, false_and, if_false]
  rfl

/-- What is read where a path leads to. -/
theorem readFile_of_resolve {t : FileTree} {directory place : Place} {p : Path}
    (h : t.resolve directory p = .ok place) : t.readFile directory p =
      match t.find? place with
      | none => .error .notFound
      | some .directory => .error .isADirectory
      | some (.file contents _) => .ok contents
      | some .zeros => .ok (List.replicate zeroCount 0)
      | some _ => .ok [] := by
  unfold readFile
  cases found : t.find? place with
  | none =>
    rw [node_of_missing h found]
    rfl
  | some node =>
    rw [node_of_find? h found]
    cases node <;> rfl

/-! ## Changing a tree -/

/-- What has been put at a place stands there. The root is always a directory. -/
theorem find?_put (t : FileTree) {place : Place} (node : Node) (below : place ≠ []) :
    (t.put place node).find? place = some node := by
  have gone : (t.entries.filter (·.1 ≠ place)).find? (·.1 = place) = none := by
    rw [List.find?_eq_none]
    intro entry mem
    simpa using (List.mem_filter.1 mem).2
  unfold find? put
  rw [if_neg below, List.find?_append, gone]
  simp

/-- A directory is made where nothing is. -/
theorem makeFirst_of_none {t : FileTree} {directory place : Place} {p : Path} (outer : List Path)
    (named : p.text.isEmpty = false) (h : t.place directory p false = .ok place)
    (free : t.find? place = none) :
    t.makeFirst directory (p :: outer) = (t.put place .directory, .ok ()) := by
  have made : t.makeDirectory directory p = .ok (t.put place .directory) := by
    simp only [makeDirectory, h, free, bind, Except.bind]
    rfl
  rw [makeFirst, named, made]
  rfl

/-- A file is written where nothing is. -/
theorem writeFile_of_none {t : FileTree} {directory place : Place} {p : Path} (contents : Bytes)
    (file : p.endsInSlash = false) (h : t.place directory p = .ok place)
    (free : t.find? place = none) :
    t.writeFile directory p contents = .ok (t.put place (.file contents Node.plainMode)) := by
  simp only [writeFile, h, file, free, bind, Except.bind]
  rfl

/-- A directory that is there is left as it is. -/
theorem makeFirst_of_directory {t : FileTree} {directory place : Place} {p : Path}
    (outer : List Path) (named : p.text.isEmpty = false)
    (h : t.place directory p false = .ok place) (found : t.find? place = some .directory)
    (there : t.resolve directory p = .ok place) :
    t.makeFirst directory (p :: outer) = (t, .ok ()) := by
  have made : t.makeDirectory directory p = .error .alreadyExists := by
    simp only [makeDirectory, h, found, bind, Except.bind]
    rfl
  have present : t.isDirectory directory p = true := by
    rw [isDirectory, node_of_find? there found]
    rfl
  rw [makeFirst, named, made]
  simp [present]

end FileTree

end WasmBindings
