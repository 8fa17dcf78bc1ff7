import WasmBindings.Shell.Regex

/-!
# Commands for lines

What a script for editing is made of. Each command is carried out on the lines that its addresses
select. Blocks are marked by where they end, so a script is a row of commands.
-/

namespace WasmBindings.Shell.Editing

/-- What selects a line. An expression that is left out is the last one that was used. -/
inductive Address where
  | line (number : Nat)
  | last
  | fitting (expression : Option Regex) (manner : Regex.Manner)
  /-- Every so many lines, from one on. -/
  | step (first size : Nat)
  deriving Repr, Inhabited

/-- The end of a range of lines. -/
inductive RangeEnd where
  | at (address : Address)
  /-- So many lines further. -/
  | after (count : Nat)
  /-- The next line whose number is a multiple. -/
  | multiple (size : Nat)
  deriving Repr, Inhabited

/-- Which lines a command is for. -/
inductive Selection where
  | all
  | one (address : Address)
  /-- From one line to another; `early` says that the first line may be the last one already. -/
  | range (first : Address) (early : Bool) (last : RangeEnd)
  deriving Repr, Inhabited

/-- What happens to the case of letters in a replacement: to all that follow, or to the next. -/
inductive CaseChange where
  | upper | lower | upperOne | lowerOne | none
  deriving DecidableEq, Repr, Inhabited

/-- A piece of a replacement. -/
inductive Piece where
  | text (characters : List Char)
  | group (number : Nat)
  | caseChange (change : CaseChange)
  deriving Repr, Inhabited

/-- A replacement of what an expression matches. -/
structure Substitution where
  expression : Option Regex
  manner : Regex.Manner := {}
  pieces : List Piece
  /-- The first match that is replaced, if it is not the very first. -/
  occurrence : Option Nat := none
  everywhere : Bool := false
  prints : Bool := false
  target : Option String := none
  deriving Repr, Inhabited

/-- What is done to a line. -/
inductive Action where
  | nothing
  | substitute (substitution : Substitution)
  | translate (pairs : List (Char × Char))
  | delete
  /-- Deletes the first line of the text, and begins again with what is left. -/
  | deleteFirst
  | print
  | printFirst
  | quit (status : Nat) (silently : Bool)
  | append (text : List Char)
  | insert (text : List Char)
  | change (text : List Char)
  | next
  | appendNext
  | hold
  | appendHold
  | get
  | appendGet
  | exchange
  | branch (label : String)
  /-- Goes on elsewhere if a replacement was made, or if none was. -/
  | branchIf (replaced : Bool) (label : String)
  | label (name : String)
  /-- A block, and the position of the command after it. -/
  | block (stop : Nat)
  | readFile (path : String)
  | readLine (path : String)
  | writeFile (path : String)
  | writeFirst (path : String)
  | number
  | path
  | list (width : Option Nat)
  | clear
  deriving Repr, Inhabited

/-- A command. -/
structure Command where
  selection : Selection := .all
  negated : Bool := false
  action : Action
  deriving Repr, Inhabited

namespace Command

/-- The label that a command goes to; without one it goes to the end of the script. -/
def target? (c : Command) : Option String :=
  match c.action with
  | .branch label | .branchIf _ label => if label.isEmpty then none else some label
  | _ => none

/-- Whether a command is a label of a name. -/
def isLabel (name : String) (c : Command) : Bool :=
  match c.action with
  | .label other => other == name
  | _ => false

/-- The file that a command writes. -/
def written? (c : Command) : Option String :=
  match c.action with
  | .writeFile path | .writeFirst path => some path
  | .substitute s => s.target
  | _ => none

end Command

end WasmBindings.Shell.Editing
