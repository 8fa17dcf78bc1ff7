import WasmBindings.Shell.Pattern
import WasmBindings.Shell.Lexer

/-!
# Regular expressions

Regular expressions in the basic and the extended form. A match is the leftmost one and, of those,
the longest; the groups from left to right are then as long as they can be. Matching goes through
sets of positions at which an expression can end, and each set is finite, so it comes to an end.
-/

namespace WasmBindings.Shell

/-- A regular expression. -/
inductive Regex where
  | empty
  | char (c : Char)
  | anyChar
  | oneOf (negated : Bool) (items : List SetItem)
  | lineStart
  | lineEnd
  | textStart
  | textEnd
  /-- The edge of a word: its beginning, its end, or either; or no edge. -/
  | wordEdge (atStart atEnd : Bool)
  | noWordEdge
  | sequence (first second : Regex)
  | either (first second : Regex)
  | repeated (body : Regex) (least : Nat) (most : Option Nat)
  | group (number : Nat) (body : Regex)
  /-- What a group has matched. -/
  | again (number : Nat)
  deriving Repr, Inhabited

namespace Regex

/-! ## Matching -/

/-- A position in a text up to which an expression has matched, and what its groups are. -/
structure Reached where
  position : Nat
  /-- The number, the beginning and the end of each group. -/
  groups : List (Nat × Nat × Nat) := []
  deriving DecidableEq, Repr, Inhabited

/-- How matching goes: without regard to case, and with anchors at line ends inside the text. -/
structure Manner where
  ignoresCase : Bool := false
  byLine : Bool := false
  deriving Repr

/-- Whether a character belongs to words. -/
def isWordChar (c : Char) : Bool := c.isAlphanum || c == '_'

/-- Whether two characters count as the same. -/
def same (m : Manner) (a b : Char) : Bool :=
  a == b || (m.ignoresCase && a.toLower == b.toLower)

/-- Whether a set holds a character. -/
def holds (m : Manner) (negated : Bool) (items : List SetItem) (c : Char) : Bool :=
  let isIn (c : Char) : Bool := items.any (Glob.SetItem.holds c)
  (isIn c || (m.ignoresCase && (isIn c.toLower || isIn c.toUpper))) != negated

/-- Whether the characters that an expression matches are single ones, and whether it matches one.
-/
def single? (m : Manner) : Regex → Option (Char → Bool)
  | char c => some (same m c)
  | anyChar => some fun _ => true
  | oneOf negated items => some (holds m negated items)
  | _ => none

/-- Whether each place lies in front of the one before it. -/
def descends : List Reached → Bool
  | a :: b :: rest => b.position < a.position && descends (b :: rest)
  | _ => true

/-- Places that were reached, each position once, the furthest first. -/
def sorted (reached : List Reached) : List Reached :=
  if descends reached then reached else
  let once := reached.foldl (fun (kept : List Reached) r =>
    if kept.any (·.position = r.position) then kept else kept ++ [r]) []
  once.mergeSort fun a b => b.position ≤ a.position

/-- The places that are reached by a step again and again. The fuel bounds the number of rounds. -/
def closure (step : Reached → List Reached) : (fuel : Nat) → (seen frontier : List Reached) →
    List Reached
  | 0, seen, _ => seen
  | fuel + 1, seen, frontier =>
    let next := sorted ((frontier.flatMap step).filter fun r =>
      !seen.any (·.position = r.position))
    if next.isEmpty then seen else closure step fuel (seen ++ next) next

/-- The places that are reached by a number of steps. -/
def iterate (step : Reached → List Reached) : Nat → List Reached → List Reached
  | 0, reached => reached
  | n + 1, reached => iterate step n (sorted (reached.flatMap step))

/-- Whether there is a word character at a position. -/
def isWordAt (text : Array Char) (position : Nat) : Bool :=
  (text[position]?.map isWordChar).getD false

/-- Whether there is a word character in front of a position. -/
def isWordBefore (text : Array Char) (position : Nat) : Bool :=
  0 < position && isWordAt text (position - 1)

/-- How many characters in a row are of a kind, from a position on; no more than a number of them
are looked at. -/
def runLength (kind : Char → Bool) (text : Array Char) : (position most : Nat) → Nat
  | _, 0 => 0
  | position, most + 1 =>
    if text[position]?.any kind then runLength kind text (position + 1) most + 1 else 0

/-- The places where an expression can end that begins at a place, the furthest first. -/
def ends (m : Manner) (text : Array Char) : Regex → Reached → List Reached
  | empty, r => [r]
  | char c, r =>
    match text[r.position]? with
    | some d => if same m c d then [{ r with position := r.position + 1 }] else []
    | none => []
  | anyChar, r =>
    if r.position < text.size then [{ r with position := r.position + 1 }] else []
  | oneOf negated items, r =>
    match text[r.position]? with
    | some d => if holds m negated items d then [{ r with position := r.position + 1 }] else []
    | none => []
  | lineStart, r =>
    if r.position = 0 ∨ (m.byLine ∧ text[r.position - 1]? = some '\n') then [r] else []
  | lineEnd, r =>
    if r.position = text.size ∨ (m.byLine ∧ text[r.position]? = some '\n') then [r] else []
  | textStart, r => if r.position = 0 then [r] else []
  | textEnd, r => if r.position = text.size then [r] else []
  | wordEdge atStart atEnd, r =>
    let before := isWordBefore text r.position
    let after := isWordAt text r.position
    if (atStart ∧ !before ∧ after) ∨ (atEnd ∧ before ∧ !after) then [r] else []
  | noWordEdge, r =>
    if isWordBefore text r.position = isWordAt text r.position then [r] else []
  | sequence first second, r => sorted ((ends m text first r).flatMap (ends m text second))
  | either first second, r => sorted (ends m text first r ++ ends m text second r)
  | repeated body least most, r =>
    match single? m body with
    | some fits =>
      -- how many characters in a row fit
      let wanted := (most.getD text.size).min (text.size - r.position)
      let count := runLength fits text r.position wanted
      ((List.range (count + 1)).filter (least ≤ ·)).reverse.map fun n =>
        { r with position := r.position + n }
    | none =>
    let step := ends m text body
    let start := iterate step least [r]
    let rounds := match most with
      | some most => most - least
      | none => text.size + 1
    sorted (closure step rounds start start)
  | group number body, r =>
    (ends m text body r).map fun after =>
      { after with
        groups := (number, r.position, after.position) :: after.groups.filter (·.1 ≠ number) }
  | again number, r =>
    match r.groups.find? (·.1 = number) with
    | none => []
    | some (_, start, stop) =>
      let size := stop - start
      let fits := (List.range size).all fun n =>
        match text[start + n]?, text[r.position + n]? with
        | some a, some b => same m a b
        | _, _ => false
      if fits then [{ r with position := r.position + size }] else []

/-- The part of a text that an expression has matched. -/
structure Match where
  start : Nat
  stop : Nat
  groups : List (Nat × Nat × Nat) := []
  deriving Repr, Inhabited

/-- The longest match at a position. -/
def matchAt? (m : Manner) (r : Regex) (text : Array Char) (position : Nat) : Option Match :=
  (ends m text r { position }).head?.map fun reached => ⟨position, reached.position, reached.groups⟩

/-- The first match from a position on. -/
def find? (m : Manner) (r : Regex) (text : Array Char) (position : Nat) : Option Match :=
  (List.range (text.size + 1 - position)).findSome? fun n => matchAt? m r text (position + n)

/-- A part of a text. -/
def partOf (text : Array Char) (start stop : Nat) : List Char :=
  (text.toList.drop start).take (stop - start)

/-- What a group of a match holds; the whole match is group zero. -/
def Match.group (found : Match) (text : Array Char) (number : Nat) : List Char :=
  if number = 0 then partOf text found.start found.stop
  else
    match found.groups.find? (·.1 = number) with
    | some (_, start, stop) => partOf text start stop
    | none => []

/-! ## Reading -/

/-- How expressions are written: marks of their own stand without a backslash in the extended form;
a strict reader refuses marks that repeat nothing, where another one takes them as they are. -/
structure Form where
  extended : Bool := false
  strict : Bool := false
  deriving Repr

/-- What is wrong with an expression. -/
inductive Fault where
  | unfinished
  | openBracket
  | bareClass
  | unknownClass
  | reversedRange
  | openGroup
  | strayEnd
  | openInterval
  | badInterval
  | nothingToRepeat
  | noSuchGroup
  | lastBackslash
  deriving DecidableEq, Repr

/-- What is said about a fault. -/
def Fault.message : Fault → String
  | unfinished => "Invalid regular expression"
  | openBracket => "Unmatched [, [^, [:, [., or [="
  | bareClass => "character class syntax is [[:space:]], not [:space:]"
  | unknownClass => "Invalid character class name"
  | reversedRange => "Invalid range end"
  | openGroup => "Unmatched ( or \\("
  | strayEnd => "Unmatched ) or \\)"
  | openInterval => "Unmatched \\\x7b"
  | badInterval => "Invalid content of \\\x7b\\\x7d"
  | nothingToRepeat => "Invalid preceding regular expression"
  | noSuchGroup => "Invalid back reference"
  | lastBackslash => "Trailing backslash"

/-- How far an expression has been read. -/
structure Source where
  rest : List Char
  form : Form
  /-- How many groups have begun. -/
  groups : Nat := 0
  /-- How many groups are open. -/
  opened : Nat := 0

/-- A reader of expressions. -/
abbrev Reading := StateT Source (Except Fault)

/-- The expression is malformed. -/
def malformed {α : Type} (fault : Fault) : Reading α := fun _ => .error fault

/-- The mark at the front of a text that has a meaning of its own, and what follows it. A mark is
written with a backslash in the basic form where it is written without one in the extended form. -/
def mark? (form : Form) : List Char → Option (Char × List Char)
  | '\\' :: c :: rest =>
    if !form.extended && ['(', ')', '|', '+', '?', '\x7b', '\x7d'].contains c then some (c, rest)
    else none
  | c :: rest =>
    if form.extended && ['(', ')', '|', '+', '?', '\x7b'].contains c then some (c, rest)
    else if c = '*' then some (c, rest)
    else none
  | [] => none

/-- The text between braces, and what follows them. -/
def interval? (form : Form) (text : List Char) : Option (List Char × List Char) :=
  let closing : List Char := if form.extended then ['\x7d'] else ['\\', '\x7d']
  (List.range (text.length + 1)).findSome? fun n =>
    if closing.isPrefixOf (text.drop n) then some (text.take n, text.drop (n + closing.length))
    else none

/-- The numbers that the text between braces names. -/
def bounds? (text : List Char) : Option (Nat × Option Nat) := do
  let low := text.takeWhile Char.isDigit
  match text.drop low.length with
  | [] => if low.isEmpty then none else some (valueOfDigits 10 low, some (valueOfDigits 10 low))
  | ',' :: high =>
    if !high.all Char.isDigit then none
    else
      let most := if high.isEmpty then none else some (valueOfDigits 10 high)
      if most.any (· < valueOfDigits 10 low) then none else some (valueOfDigits 10 low, most)
  | _ => none

/-- The expression of an escaped character that stands for a set of characters or an edge. -/
def escaped? : Char → Option Regex
  | 'w' => some (oneOf false [.named ['a', 'l', 'n', 'u', 'm'], .range '_' '_'])
  | 'W' => some (oneOf true [.named ['a', 'l', 'n', 'u', 'm'], .range '_' '_'])
  | 's' => some (oneOf false [.named ['s', 'p', 'a', 'c', 'e']])
  | 'S' => some (oneOf true [.named ['s', 'p', 'a', 'c', 'e']])
  | 'b' => some (wordEdge true true)
  | 'B' => some noWordEdge
  | '<' => some (wordEdge true false)
  | '>' => some (wordEdge false true)
  | '\x60' => some textStart
  | '\'' => some textEnd
  | _ => none

/-- Reads what follows an expression that is to be repeated. The fuel bounds the number of marks. -/
def repetitions (body : Regex) : (fuel : Nat) → Reading Regex
  | 0 => return body
  | fuel + 1 => do
    let s ← get
    let again := body matches .repeated ..
    match mark? s.form s.rest with
    | some (c, rest) =>
      if again ∧ s.form.strict ∧ !s.form.extended ∧ (c = '*' ∨ c = '\x7b') then
        malformed .nothingToRepeat
      let on (body : Regex) (rest : List Char) : Reading Regex := do
        set { s with rest }
        repetitions body fuel
      match c with
      | '*' => on (.repeated body 0 none) rest
      | '+' => on (.repeated body 1 none) rest
      | '?' => on (.repeated body 0 (some 1)) rest
      | '\x7b' =>
        let lenient := s.form.extended && !s.form.strict
        match interval? s.form rest with
        | none => if lenient then return body else malformed .openInterval
        | some (text, rest) =>
          match bounds? text with
          | some (least, most) => on (.repeated body least most) rest
          | none => if lenient then return body else malformed .badInterval
      | _ => return body
    | none => return body

/-- Whether a dollar sign is an anchor in front of a text. -/
def isAnchorBefore (form : Form) (rest : List Char) : Bool :=
  form.extended || rest.isEmpty || ['\\', ')'].isPrefixOf rest || ['\\', '|'].isPrefixOf rest

/-- The names of the classes of characters. -/
def classNames : List String :=
  ["alpha", "digit", "alnum", "upper", "lower", "space", "blank", "punct", "print", "graph",
    "cntrl", "xdigit"]

/-- What is wrong with an item between brackets, if something is. -/
def itemFault? : SetItem → Option Fault
  | .range first last => if last < first then some .reversedRange else none
  | .named name =>
    if classNames.contains (String.ofList name) then none else some .unknownClass

/-- Reads the set after an opening bracket. -/
def bracket (rest : List Char) : Reading Regex := do
  if rest.isEmpty ∨ rest = ['^'] then malformed .unfinished
  match Glob.set? ['^'] (rest.map (·, true)) with
  | some (.set negated items, after) =>
    let inner := rest.take (rest.length - after.length - 1)
    if 1 < inner.length ∧ inner.head? = some ':' ∧ inner.getLast? = some ':' then
      malformed .bareClass
    match items.findSome? itemFault? with
    | some fault => malformed fault
    | none =>
      modify fun s => { s with rest := after.map Prod.fst }
      return .oneOf negated items
  | _ => malformed .openBracket

/-- Reads a single expression, without what repeats it; `isFirst` says that nothing stands in front
of it. -/
def single (whole : Reading Regex) (isFirst : Bool) : Reading Regex := do
  let s ← get
  match mark? s.form s.rest, s.rest with
  | some ('(', rest), _ =>
    let number := s.groups + 1
    set { s with rest, groups := number, opened := s.opened + 1 }
    let body ← whole
    let s ← get
    match mark? s.form s.rest with
    | some (')', rest) =>
      set { s with rest, opened := s.opened - 1 }
      return .group number body
    | _ => malformed .openGroup
  | some (c, rest), _ =>
    -- a mark that repeats has nothing in front of it
    set { s with rest }
    if c = ')' then
      if s.form.extended ∧ !s.form.strict then return .char ')' else malformed .strayEnd
    else if s.form.extended then
      if s.form.strict then malformed .nothingToRepeat else return .char c
    else if c = '*' then return .char c
    else malformed .nothingToRepeat
  | none, '.' :: rest =>
    set { s with rest }
    return .anyChar
  | none, '[' :: rest => bracket rest
  | none, '^' :: rest =>
    set { s with rest }
    return if s.form.extended || isFirst then .lineStart else .char '^'
  | none, '$' :: rest =>
    set { s with rest }
    return if isAnchorBefore s.form rest then .lineEnd else .char '$'
  | none, '\\' :: c :: rest =>
    set { s with rest }
    if c.isDigit ∧ c ≠ '0' then
      let number := c.toNat - '0'.toNat
      if s.groups < number then malformed .noSuchGroup
      return .again number
    match escaped? c with
    | some r => return r
    | none => return .char (if c = 'n' then '\n' else c)
  | none, ['\\'] => malformed .lastBackslash
  | none, c :: rest =>
    set { s with rest }
    return .char c
  | none, [] => return .empty

/-- Reads expressions one after the other. The fuel bounds their number. -/
def sequenced (whole : Reading Regex) : (fuel : Nat) → (isFirst : Bool) → Reading Regex
  | 0, _ => return .empty
  | fuel + 1, isFirst => do
    let s ← get
    let isEnd := match mark? s.form s.rest with
      | some ('|', _) => true
      | some (')', _) => 0 < s.opened || !s.form.extended
      | _ => false
    if s.rest.isEmpty || isEnd then return .empty
    let first ← single whole isFirst
    let after := (← get).rest.length
    let isAnchor := first matches .lineStart
    let first ← if isAnchor && !s.form.extended then pure first else repetitions first (after + 1)
    let rest ← sequenced whole fuel (isAnchor && !s.form.extended)
    match rest with
    | .empty => return first
    | rest => return .sequence first rest

/-- Reads expressions of which one has to match. The fuel bounds how deep groups nest, and the
number of choices. -/
def choices : (fuel : Nat) → Reading Regex
  | 0 => return .empty
  | fuel + 1 => do
    let first ← sequenced (choices fuel) ((← get).rest.length + 1) true
    let s ← get
    match mark? s.form s.rest with
    | some ('|', rest) =>
      set { s with rest }
      return .either first (← choices fuel)
    | _ => return first

/-- Reads a text as an expression; tells what is wrong with it, if something is. -/
def read (form : Form) (text : List Char) : Except Fault Regex := do
  let (r, s) ← (choices (text.length + 2)).run { rest := text, form }
  if s.rest.isEmpty then return r else throw .strayEnd

/-- The expression that matches a text as it is. -/
def ofText (text : List Char) : Regex :=
  text.foldr (fun c r =>
    match r with
    | .empty => .char c
    | r => .sequence (.char c) r) .empty

end Regex

end WasmBindings.Shell
