import WasmBindings.Proofs.Sandbox.Files

/-!
# Ways through a tree

A path leads from name to name, and over links to where they point. All that it leads over are
directories and links (`FileTree.Way`), so files may come and go beside it: in a tree that keeps all
directories and links, a path still leads to where it did (`FileTree.place_mono`), unless a link has
come to stand there.

Without links a path leads to an entry of its own last name (`FileTree.getLast?_of_place`). So paths
that end in different names never lead to the same file.
-/

namespace WasmBindings

namespace Node

/-- Whether a way can lead on over this: a directory, or a link. -/
def leadsOn : Node → Bool
  | directory | link _ => true
  | _ => false

end Node

namespace FileTree

/-- A name that leads down from a directory. -/
structure Proper (name : String) : Prop where
  notHere : name ≠ "."
  notUp : name ≠ ".."
  short : name.utf8ByteSize ≤ nameLimit

/-- The ways from a place along some names, over so many links at most. A link at the end is left as
it is unless it is to be followed. -/
inductive Way (t : FileTree) (follow : Bool) : Nat → Place → List String → Place → Prop
  | done {links : Nat} {place : Place} : Way t follow links place [] place
  | here {links : Nat} {place found : Place} {rest : List String}
      (start : t.find? place = some .directory) (on : Way t follow links place rest found) :
      Way t follow links place ("." :: rest) found
  | up {links : Nat} {place found : Place} {rest : List String}
      (start : t.find? place = some .directory)
      (on : Way t follow links place.dropLast rest found) :
      Way t follow links place (".." :: rest) found
  | down {links : Nat} {place found : Place} {name : String} {rest : List String}
      (start : t.find? place = some .directory) (proper : Proper name)
      (plain : ∀ target, t.find? (place ++ [name]) ≠ some (.link target))
      (on : Way t follow links (place ++ [name]) rest found) :
      Way t follow links place (name :: rest) found
  | stop {links : Nat} {place : Place} {name target : String}
      (start : t.find? place = some .directory) (proper : Proper name)
      (link : t.find? (place ++ [name]) = some (.link target)) (stays : follow = false) :
      Way t follow (links + 1) place [name] (place ++ [name])
  | jump {links : Nat} {place found : Place} {name target : String} {rest : List String}
      (start : t.find? place = some .directory) (proper : Proper name)
      (link : t.find? (place ++ [name]) = some (.link target))
      (goes : rest = [] → follow = true)
      (on : Way t follow links (if (⟨target⟩ : Path).isAbsolute then [] else place)
        ((⟨target⟩ : Path).segments ++ rest) found) :
      Way t follow (links + 1) place (name :: rest) found

variable {t t' : FileTree} {follow follow' : Bool} {links : Nat} {place found : Place}
  {name : String} {segments rest : List String}

theorem requireDirectory_eq_ok_iff :
    t.requireDirectory place = .ok () ↔ t.find? place = some .directory := by
  unfold requireDirectory
  constructor
  · intro h
    split at h
    · assumption
    · cases h
    · cases h
  · intro h
    rw [h]

/-- A step of a walk, from a directory. -/
theorem walk_cons (start : t.find? place = some .directory) :
    t.walk follow links place (name :: rest) =
      if name = "." then t.walk follow links place rest
      else if name = ".." then t.walk follow links place.dropLast rest
      else if name.utf8ByteSize > nameLimit then .error .nameTooLong
      else
        match links, t.find? (place ++ [name]) with
        | 0, some (.link _) => .error .tooManyLinks
        | links + 1, some (.link target) =>
          if rest.isEmpty ∧ !follow then .ok (place ++ [name])
          else t.walk follow links (if (⟨target⟩ : Path).isAbsolute then [] else place)
            ((⟨target⟩ : Path).segments ++ rest)
        | links, _ => t.walk follow links (place ++ [name]) rest := by
  rw [walk, requireDirectory_of_find? start]
  rfl

theorem find?_of_walk_cons (h : t.walk follow links place (name :: rest) = .ok found) :
    t.find? place = some .directory := by
  rw [walk] at h
  cases required : t.requireDirectory place with
  | error e =>
    rw [required] at h
    cases h
  | ok _ => exact requireDirectory_eq_ok_iff.1 required

/-- A name without a link leads down. -/
theorem walk_cons_of_plain (start : t.find? place = some .directory) (proper : Proper name)
    (plain : ∀ target, t.find? (place ++ [name]) ≠ some (.link target)) :
    t.walk follow links place (name :: rest) = t.walk follow links (place ++ [name]) rest := by
  rw [walk_cons start, if_neg proper.notHere, if_neg proper.notUp,
    if_neg (Nat.not_lt.2 proper.short)]
  cases there : t.find? (place ++ [name]) with
  | none => cases links <;> rfl
  | some node =>
    cases node with
    | link target => exact absurd there (plain target)
    | _ => cases links <;> rfl

/-- A link leads to where it points, unless it stays as the end of the way. -/
theorem walk_cons_of_link {target : String} (start : t.find? place = some .directory)
    (proper : Proper name) (link : t.find? (place ++ [name]) = some (.link target)) :
    t.walk follow links place (name :: rest) =
      match links with
      | 0 => .error .tooManyLinks
      | links + 1 =>
        if rest.isEmpty ∧ !follow then .ok (place ++ [name])
        else t.walk follow links (if (⟨target⟩ : Path).isAbsolute then [] else place)
          ((⟨target⟩ : Path).segments ++ rest) := by
  rw [walk_cons start, if_neg proper.notHere, if_neg proper.notUp,
    if_neg (Nat.not_lt.2 proper.short), link]
  cases links <;> rfl

/-- Every way is walked to its end. -/
theorem walk_of_way (h : Way t follow links place segments found) :
    t.walk follow links place segments = .ok found := by
  induction h with
  | done => rw [walk]
  | here start _ ih => rw [walk_cons start, if_pos rfl, ih]
  | up start _ ih => rw [walk_cons start, if_neg (by decide), if_pos rfl, ih]
  | down start proper plain _ ih => rw [walk_cons_of_plain start proper plain, ih]
  | stop start proper link stays =>
    rw [walk_cons_of_link start proper link]
    simp [stays]
  | jump start proper link goes _ ih =>
    rw [walk_cons_of_link start proper link]
    dsimp only
    rw [if_neg, ih]
    intro ends
    rw [List.isEmpty_iff, Bool.not_eq_true'] at ends
    rw [goes ends.1] at ends
    exact absurd ends.2 (by decide)

/-- A walk that ends has gone along a way. The links are counted down, and between two of them the
names. -/
theorem way_of_walk (h : t.walk follow links place segments = .ok found) :
    Way t follow links place segments found := by
  induction links using Nat.strongRecOn generalizing place segments found with
  | ind links fewer =>
  induction segments generalizing place found with
  | nil =>
    rw [walk] at h
    cases h
    exact .done
  | cons name rest ih =>
    have start := find?_of_walk_cons h
    by_cases here : name = "."
    · rw [walk_cons start, if_pos here] at h
      subst here
      exact .here start (ih h)
    by_cases up : name = ".."
    · rw [walk_cons start, if_neg here, if_pos up] at h
      subst up
      exact .up start (ih h)
    by_cases long : name.utf8ByteSize > nameLimit
    · rw [walk_cons start, if_neg here, if_neg up, if_pos long] at h
      cases h
    have proper : Proper name := ⟨here, up, Nat.not_lt.1 long⟩
    by_cases link : ∃ target, t.find? (place ++ [name]) = some (.link target)
    · obtain ⟨target, link⟩ := link
      rw [walk_cons_of_link start proper link] at h
      cases links with
      | zero => cases h
      | succ links =>
        dsimp only at h
        split at h
        · next ends =>
          cases h
          rw [List.isEmpty_iff, Bool.not_eq_true'] at ends
          rw [ends.1]
          exact .stop start proper link ends.2
        · next goes =>
          refine .jump start proper link (fun none => ?_) (fewer links (Nat.lt_succ_self _) h)
          cases follow with
          | true => rfl
          | false => exact absurd ⟨List.isEmpty_iff.2 none, rfl⟩ goes
    · have plain : ∀ target, t.find? (place ++ [name]) ≠ some (.link target) :=
        fun target there => link ⟨target, there⟩
      rw [walk_cons_of_plain start proper plain] at h
      exact .down start proper plain (ih h)

/-- Ways are what a walk goes along. -/
theorem walk_eq_ok_iff :
    t.walk follow links place segments = .ok found ↔ Way t follow links place segments found :=
  ⟨way_of_walk, walk_of_way⟩

/-- A way that goes on starts from a directory. -/
theorem Way.start (h : Way t follow links place (name :: rest) found) :
    t.find? place = some .directory := by
  cases h with
  | here start _ => exact start
  | up start _ => exact start
  | down start _ _ _ => exact start
  | stop start _ _ _ => exact start
  | jump start _ _ _ _ => exact start

/-- Whether all that ways lead over in one tree is in another one too. -/
def KeepsWays (t t' : FileTree) : Prop :=
  ∀ place node, t.find? place = some node → node.leadsOn → t'.find? place = some node

/-- **A way stays one in a tree that keeps what ways lead over,** if no link comes to stand at its
end. -/
theorem Way.mono (keeps : KeepsWays t t') (le : follow → follow')
    (h : Way t follow links place segments found)
    (plain : ∀ target, t'.find? found ≠ some (.link target)) :
    Way t' follow' links place segments found := by
  induction h with
  | done => exact .done
  | here start _ ih => exact .here (keeps _ _ start rfl) (ih plain)
  | up start _ ih => exact .up (keeps _ _ start rfl) (ih plain)
  | @down links place found name rest start proper _ on ih =>
    refine .down (keeps _ _ start rfl) proper ?_ (ih plain)
    cases rest with
    | nil =>
      cases on
      exact plain
    | cons next rest =>
      -- the way goes on, so a directory stands here, in the other tree as well
      intro target link
      rw [keeps _ _ on.start rfl] at link
      cases link
  | stop start proper link _ => exact absurd (keeps _ _ link rfl) (plain _)
  | jump start proper link goes _ ih =>
    exact .jump (keeps _ _ start rfl) proper (keeps _ _ link rfl) (fun none => le (goes none))
      (ih plain)

/-- Whether there are no links in a tree. -/
def LinkFree (t : FileTree) : Prop := ∀ place target, t.find? place ≠ some (.link target)

/-- Without links it makes no difference whether one at the end is to be followed. -/
theorem Way.of_linkFree (free : t.LinkFree) (h : Way t follow links place segments found)
    (follow' : Bool) : Way t follow' links place segments found := by
  induction h with
  | done => exact .done
  | here start _ ih => exact .here start ih
  | up start _ ih => exact .up start ih
  | down start proper plain _ ih => exact .down start proper plain ih
  | stop _ _ link _ => exact absurd link (free _ _)
  | jump _ _ link _ _ _ => exact absurd link (free _ _)

theorem getLast?_cons_eq_some {first : String} (h : (first :: rest).getLast? = some name) :
    rest = [] ∧ first = name ∨ rest.getLast? = some name := by
  cases rest with
  | nil => exact .inl ⟨rfl, Option.some.inj h⟩
  | cons next rest =>
    rw [List.getLast?_cons_cons] at h
    exact .inr h

/-- Without links a way ends in its last name. -/
theorem Way.getLast? (free : t.LinkFree) (h : Way t follow links place segments found)
    (last : segments.getLast? = some name) (notHere : name ≠ ".") (notUp : name ≠ "..") :
    found.getLast? = some name := by
  induction h with
  | done => cases last
  | here _ _ ih =>
    rcases getLast?_cons_eq_some last with ⟨_, same⟩ | last
    · exact absurd same.symm notHere
    · exact ih last
  | up _ _ ih =>
    rcases getLast?_cons_eq_some last with ⟨_, same⟩ | last
    · exact absurd same.symm notUp
    · exact ih last
  | down _ _ _ on ih =>
    rcases getLast?_cons_eq_some last with ⟨rfl, rfl⟩ | last
    · cases on
      exact List.getLast?_concat
    · exact ih last
  | stop _ _ link _ => exact absurd link (free _ _)
  | jump _ _ link _ _ _ => exact absurd link (free _ _)

/-! ## Where paths lead to -/

variable {directory : Place} {p : Path}

theorem place_eq_ok_iff : t.place directory p follow = .ok found ↔ pathError? p = none ∧
    Way t follow linkLimit (if p.isAbsolute then [] else directory) p.segments found := by
  unfold FileTree.place
  cases wrong : pathError? p with
  | none => simp [walk_eq_ok_iff]
  | some error => simp

/-- A path leads to the same place in a tree that keeps what ways lead over. -/
theorem place_mono (keeps : KeepsWays t t') (le : follow → follow')
    (h : t.place directory p follow = .ok found)
    (plain : ∀ target, t'.find? found ≠ some (.link target)) :
    t'.place directory p follow' = .ok found := by
  rw [place_eq_ok_iff] at h ⊢
  exact ⟨h.1, h.2.mono keeps le plain⟩

theorem place_of_linkFree (free : t.LinkFree) (h : t.place directory p follow = .ok found)
    (follow' : Bool) : t.place directory p follow' = .ok found := by
  rw [place_eq_ok_iff] at h ⊢
  exact ⟨h.1, h.2.of_linkFree free follow'⟩

theorem place_of_resolve (h : t.resolve directory p follow = .ok found) :
    t.place directory p (follow || p.endsInSlash) = .ok found := by
  unfold resolve at h
  cases there : t.place directory p (follow || p.endsInSlash) with
  | error e =>
    rw [there] at h
    cases h
  | ok place =>
    rw [there] at h
    dsimp only [bind, Except.bind] at h
    split at h
    · cases required : t.requireDirectory place with
      | error e =>
        rw [required] at h
        cases h
      | ok _ =>
        rw [required] at h
        exact h
    · exact h

/-- Without links a path leads to an entry of its last name. -/
theorem getLast?_of_place (free : t.LinkFree) (last : p.segments.getLast? = some name)
    (notHere : name ≠ ".") (notUp : name ≠ "..") (h : t.place directory p follow = .ok found) :
    found.getLast? = some name :=
  (place_eq_ok_iff.1 h).2.getLast? free last notHere notUp

/-! ## Ways that can be computed -/

/-- Where names lead to, unless they meet a link. -/
def linkless? (t : FileTree) (place : Place) : List String → Option (Except IoError Place)
  | [] => some (.ok place)
  | name :: rest =>
    match t.requireDirectory place with
    | .error error => some (.error error)
    | .ok () =>
      if name = "." then t.linkless? place rest
      else if name = ".." then t.linkless? place.dropLast rest
      else if name.utf8ByteSize > nameLimit then some (.error .nameTooLong)
      else if (t.find? (place ++ [name])).any Node.isLink then none
      else t.linkless? (place ++ [name]) rest

theorem walk_of_linkless {outcome : Except IoError Place}
    (h : t.linkless? place segments = some outcome) :
    t.walk follow links place segments = outcome := by
  induction segments generalizing place with
  | nil =>
    rw [walk]
    exact Option.some.inj h
  | cons name rest ih =>
    unfold linkless? at h
    cases start : t.requireDirectory place with
    | error error =>
      rw [start] at h
      rw [walk, start]
      exact Option.some.inj h
    | ok _ =>
      have directory := requireDirectory_eq_ok_iff.1 start
      rw [start] at h
      dsimp only at h
      split at h
      · next here => rw [walk_cons directory, if_pos here, ih h]
      · next here =>
        split at h
        · next up => rw [walk_cons directory, if_neg here, if_pos up, ih h]
        · next up =>
          split at h
          · next long =>
            rw [walk_cons directory, if_neg here, if_neg up, if_pos long]
            exact Option.some.inj h
          · next long =>
            split at h
            · cases h
            · next plain =>
              rw [walk_cons_of_plain directory ⟨here, up, Nat.not_lt.1 long⟩ ?_, ih h]
              intro target link
              rw [link] at plain
              exact plain rfl

/-- Where a path leads to that meets no link. -/
theorem place_of_linkless {outcome : Except IoError Place} (right : pathError? p = none)
    (h : t.linkless? (if p.isAbsolute then [] else directory) p.segments = some outcome) :
    t.place directory p follow = outcome := by
  rw [FileTree.place, right]
  exact walk_of_linkless h

end FileTree

end WasmBindings
