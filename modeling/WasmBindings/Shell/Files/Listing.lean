import WasmBindings.Shell.Files.Names

/-!
# Listing

The program that lists directories.
-/

namespace WasmBindings.Shell.Files

/-- The options of `ls`. -/
def listing : Usage :=
  { program := "ls", flags := "aAl1dFpRrtSUhinQ", status := 2
    long := [("all", 'a'), ("almost-all", 'A'), ("directory", 'd'), ("recursive", 'R')] }

/-- A name with a mark that says what it is, if that is wanted. -/
def marked (settings : List Setting) (name : String) (node : Option Node) : String :=
  match node with
  | some .directory => if given settings "Fp" then name ++ "/" else name
  | some (.link _) => if given settings "F" then name ++ "@" else name
  | some node => if given settings "F" ∧ node.isExecutable then name ++ "*" else name
  | none => name

/-- Turns a list round if that is wanted. -/
def ordered (settings : List Setting) (names : List String) : List String :=
  if given settings "r" then names.reverse else names

/-- The lines for what is in a directory. -/
def listed (settings : List Setting) (s : State) (place : Place) : List String :=
  let names := (s.tree.names place).filter fun name =>
    given settings "aA" || name.toList.head? ≠ some '.'
  let entries := names.map fun name =>
    marked settings (Octet.ofText name) (s.tree.find? (place ++ [name]))
  let dots := if given settings "a" then
      [marked settings "." (some .directory), marked settings ".." (some .directory)]
    else []
  ordered settings (dots ++ entries)

/-- The directories inside of a directory, the way a listing goes through them. The fuel bounds how
deep they nest. -/
def directoriesIn (s : State) : (fuel : Nat) → String → Place → List (String × Place)
  | 0, path, place => [(path, place)]
  | fuel + 1, path, place =>
    (path, place) :: (s.tree.names place).flatMap fun name =>
      match s.tree.find? (place ++ [name]) with
      | some .directory =>
        directoriesIn s fuel (inside path (Octet.ofText name)) (place ++ [name])
      | _ => []

/-- The text of a listing. -/
def ls : Program := listing.run fun settings operands s =>
  let operands := if operands.isEmpty then ["."] else operands
  let sorted := ordered settings (operands.mergeSort fun a b => Octet.precedes a.toList b.toList)
  let (missing, present) := sorted.partition fun path => (s.node path false).toOption.isNone
  let s := eachOperand missing (fun s path =>
    let e := match s.node path false with
      | .error e => e
      | .ok _ => .notFound
    s.complain s!"ls: cannot access {quote path}: {e.reason}" 2) s
  let isListed (path : String) : Bool := s.isDirectory path && !given settings "d"
  let (directories, files) := present.partition isListed
  let s := files.foldl (fun s path =>
    s.emitLine (marked settings path (s.node path false).toOption)) s
  let directories := directories.filterMap fun path =>
    (s.placeOf path).toOption.map fun place => (path, place)
  let directories := if given settings "R" then
      directories.flatMap fun (path, place) => directoriesIn s 100 path place
    else directories
  let titled := given settings "R" || 1 < operands.length
  (directories.foldl (fun (isFirst, s) (path, place) =>
    let s := if isFirst then s else s.emitText "\n"
    let s := if titled then s.emitLine (path ++ ":") else s
    (false, (listed settings s place).foldl State.emitLine s)) (files.isEmpty, s)).2

end WasmBindings.Shell.Files
