import WasmBindings.Text.Quoted

/-!
# JSON

A document of nulls, truth values, natural numbers, strings, arrays and objects, and its text with
one item a line. Objects keep the order of their members.
-/

namespace WasmBindings

/-- A document. -/
inductive Json where
  | null
  | bool (value : Bool)
  | number (value : Nat)
  | string (value : String)
  | array (items : List Json)
  | object (members : List (String × Json))
  deriving Inhabited

namespace Json

/-- The blanks that start a line inside `depth` brackets. -/
def indentation (depth : Nat) : String :=
  String.ofList (List.replicate (2 * depth) ' ')

/-- Lines between brackets, with commas after all but the last; without lines, the brackets
alone. -/
def bracketed (opening closing : String) (depth : Nat) (lines : List String) : String :=
  match lines with
  | [] => opening ++ closing
  | lines =>
    opening ++ "\n" ++
      ",\n".intercalate (lines.map (indentation (depth + 1) ++ ·)) ++
      "\n" ++ indentation depth ++ closing

mutual

/-- The text of a document that stands inside `depth` brackets. -/
def pretty (depth : Nat) : Json → String
  | null => "null"
  | bool value => if value then "true" else "false"
  | number value => toString value
  | string value => Quoted.encode value
  | array items => bracketed "[" "]" depth (prettyItems (depth + 1) items)
  | object members => bracketed "\x7b" "\x7d" depth (prettyMembers (depth + 1) members)

/-- The texts of the items of an array. -/
def prettyItems (depth : Nat) : List Json → List String
  | [] => []
  | item :: rest => pretty depth item :: prettyItems depth rest

/-- The texts of the members of an object. -/
def prettyMembers (depth : Nat) : List (String × Json) → List String
  | [] => []
  | (name, value) :: rest =>
    (Quoted.encode name ++ ": " ++ pretty depth value) :: prettyMembers depth rest

end

/-- The text of a whole document. -/
def text (document : Json) : String := document.pretty 0

end Json

end WasmBindings
