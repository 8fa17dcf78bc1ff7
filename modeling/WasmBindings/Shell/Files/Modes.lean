import WasmBindings.Shell.Files.Names

/-!
# Modes

Who may read, write and run a file, and the program that changes it.
-/

namespace WasmBindings.Shell.Files

/-- The options of `chmod`. -/
def modeChanging : Usage :=
  { program := "chmod", flags := "Rvcf", long := [("recursive", 'R')] }

/-- The bits that letters give to a class of users. -/
def modeBits (letters : List Char) : Nat :=
  letters.foldl (fun bits c =>
    bits ||| (match c with
      | 'r' => 0o444
      | 'w' => 0o222
      | 'x' | 'X' => 0o111
      | _ => 0)) 0

/-- The bits that belong to some classes of users; all of them if none is named. -/
def classBits (letters : List Char) : Nat :=
  if letters.isEmpty ∨ letters.contains 'a' then 0o777
  else
    letters.foldl (fun bits c =>
      bits ||| (match c with
        | 'u' => 0o700
        | 'g' => 0o070
        | 'o' => 0o007
        | _ => 0)) 0

/-- A mode after one change, such as `u+x`; none if it is malformed. -/
def changedMode? (mode : Nat) (change : List Char) : Option Nat := do
  let users := change.takeWhile ['u', 'g', 'o', 'a'].contains
  let mask := classBits users
  match change.drop users.length with
  | sign :: letters =>
    guard (letters.all ['r', 'w', 'x', 'X', 's', 't'].contains)
    let bits := modeBits letters &&& mask
    match sign with
    | '+' => return mode ||| bits
    | '-' => return mode &&& (0o7777 - bits)
    | '=' => return (mode &&& (0o7777 - mask)) ||| bits
    | _ => none
  | [] => none

/-- A mode after all changes of a text, or the mode that the text is; none if it is malformed. -/
def modeAfter? (mode : Nat) (text : String) : Option Nat :=
  let letters := text.toList
  if !letters.isEmpty ∧ letters.all Char.isDigit then
    if letters.all (fun c => c.toNat < 56) ∧ letters.length ≤ 5 then
      some (letters.foldl (fun n c => 8 * n + (c.toNat - 48)) 0)
    else none
  else (splitAt ',' letters).foldlM changedMode? mode

/-- Changes the mode of a file. -/
def changeMode (change : String) (s : State) (path : String) : State :=
  match s.node path, s.placeOf path with
  | .ok (.file contents mode), .ok place =>
    match modeAfter? mode change with
    | some mode => s.withTree (s.tree.put place (.file contents mode))
    | none => s.done 1
  | .error e, _ => modeChanging.report s s!"cannot access {quote path}: {e.reason}"
  | _, _ => s.done 0

/-- Changes the modes of files. -/
def chmod : Program := fun words s =>
  let options := words.takeWhile ["-R", "-v", "-c", "-f", "--", "--recursive"].contains
  match words.drop options.length with
  | [] => modeChanging.refuse s "missing operand"
  | [mode] => modeChanging.refuse s s!"missing operand after {quote mode}"
  | mode :: paths =>
    if (modeAfter? 0 mode).isNone then modeChanging.refuse s s!"invalid mode: {quote mode}"
    else
      let all (s : State) (path : String) : List String :=
        if options.contains "-R" ∨ options.contains "--recursive" then
          match s.placeOf path with
          | .ok place => path :: (s.tree.below place).map fun (rest, _) =>
              inside path (Octet.ofText ("/".intercalate rest))
          | .error _ => [path]
        else [path]
      eachOperand (paths.flatMap (all s)) (changeMode mode) s

end WasmBindings.Shell.Files
