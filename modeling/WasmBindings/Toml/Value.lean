/-!
# Values of a document

A table remembers how it came about, because that decides who may still add to it: a table that a
header names is complete, apart from sub-tables; one that only stands on the way to a header may be
named later; one made by dotted keys may grow by dotted keys; and an inline table is closed.
-/

namespace WasmBindings.Toml

/-- How a table came about. -/
inductive Origin where
  | header
  | implied
  | dotted
  | inline
  deriving DecidableEq, Repr, Inhabited

/-- A value. Of numbers other than integers, dates and times only the kind is kept. -/
inductive Value where
  | string (text : String)
  | integer (value : Int)
  | float
  | boolean (value : Bool)
  | dateTime
  | array (items : List Value)
  | table (origin : Origin) (entries : List (String × Value))
  /-- The tables that headers in double brackets add one by one. -/
  | tables (items : List (List (String × Value)))
  deriving Inhabited

/-- The entries of a table, in the order of their first mention. -/
abbrev Entries := List (String × Value)

namespace Entries

/-- The value of a key. -/
def get? (entries : Entries) (key : String) : Option Value :=
  (entries.find? (·.1 = key)).map (·.2)

/-- Replaces the value of a key, or adds one at the end; fails if there may be none. -/
def alter (key : String) (f : Option Value → Option Value) : Entries → Option Entries
  | [] => do return [(key, ← f none)]
  | (k, v) :: rest =>
    if k = key then do return (k, ← f (some v)) :: rest
    else do return (k, v) :: (← alter key f rest)

/-- Adds an entry, whose key has to be new. -/
def add (entries : Entries) (key : String) (value : Value) : Option Entries :=
  entries.alter key fun
    | none => some value
    | some _ => none

/-- Changes the last item of a list. -/
def alterLast (f : α → Option α) : List α → Option (List α)
  | [] => none
  | [a] => do return [← f a]
  | a :: b :: rest => do return a :: (← alterLast f (b :: rest))

/-- Goes down along a path of keys and acts on the table at its end. Tables that are missing are
made with the given origin, and only through tables of some origins may the path go. Where headers
have added tables, it goes through the last of them. -/
def descend (made : Origin) (passable : Origin → Bool)
    (act : Origin → Entries → Option Entries) :
    (path : List String) → Origin → Entries → Option Entries
  | [], origin, entries => act origin entries
  | key :: path, _, entries =>
    entries.alter key fun
      | none => do return .table made (← descend made passable act path made [])
      | some (.table origin inner) =>
        if passable origin then do
          return .table origin (← descend made passable act path origin inner)
        else none
      | some (.tables items) => do
        return .tables (← alterLast (descend made passable act path .header) items)
      | some _ => none

/-- Goes down along the path of a header. -/
def alongHeader (act : Origin → Entries → Option Entries) (path : List String)
    (entries : Entries) : Option Entries :=
  descend .implied (· ≠ .inline) act path .header entries

/-- Adds an entry under a dotted key to a table. The table it ends up in has to be made by dotted
keys, unless the key has no dots. -/
def addDotted (made : Origin) (path : List String) (key : String) (value : Value)
    (entries : Entries) : Option Entries :=
  descend .dotted (fun origin => origin = .implied || origin = .dotted)
    (fun origin entries =>
      if path = [] ∨ origin = .dotted then entries.add key value else none)
    path made entries

/-- Opens the table that a header names. -/
def openTable (path : List String) (key : String) (entries : Entries) : Option Entries :=
  alongHeader (fun _ entries =>
    entries.alter key fun
      | none => some (.table .header [])
      | some (.table .implied inner) => some (.table .header inner)
      | some _ => none) path entries

/-- Adds the table that a header in double brackets names. -/
def addTable (path : List String) (key : String) (entries : Entries) : Option Entries :=
  alongHeader (fun _ entries =>
    entries.alter key fun
      | none => some (.tables [[]])
      | some (.tables items) => some (.tables (items ++ [[]]))
      | some _ => none) path entries

end Entries

end WasmBindings.Toml
