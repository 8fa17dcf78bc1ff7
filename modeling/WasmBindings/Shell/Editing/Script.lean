import WasmBindings.Shell.Editing.Command
import WasmBindings.Shell.Program

/-!
# Scripts for editing

Reads the text of a script. A script is given in parts, each of which is an argument or a file; what
is wrong with a script is told with the part and the place in it.
-/

namespace WasmBindings.Shell.Editing

/-- A part of a script: an argument, or the contents of a file that has a name. -/
structure ScriptPart where
  text : List Char
  file : Option String := none
  deriving Repr, Inhabited

/-- What is wrong with a script. -/
inductive ScriptFault where
  /-- Something is wrong at the place after which so many characters are left. -/
  | at (text : String) (left : Nat)
  /-- Something is wrong with all of it. -/
  | everywhere (text : String)
  deriving Repr

/-- How far a script has been read. -/
structure Source where
  rest : List Char
  form : Regex.Form
  /-- The commands that were read. -/
  commands : Array Command := #[]
  /-- The blocks that are open: the positions of their commands, and how much was left there. -/
  opened : List (Nat × Nat) := []

/-- A reader of scripts. -/
abbrev Reading := StateT Source (Except ScriptFault)

/-- The script is malformed here. -/
def malformed {α : Type} (text : String) : Reading α := fun s => .error (.at text s.rest.length)

/-- The next character, which stays. -/
def peek? : Reading (Option Char) := return (← get).rest.head?

/-- Passes over the next character. -/
def skip : Reading Unit := modify fun s => { s with rest := s.rest.drop 1 }

/-- Takes the characters in front that are all of a kind. -/
def takeWhile (kind : Char → Bool) : Reading (List Char) := do
  let s ← get
  let text := s.rest.takeWhile kind
  set { s with rest := s.rest.drop text.length }
  return text

/-- Whether a character is a blank. -/
def isBlank (c : Char) : Bool := c == ' ' || c == '\t'

/-- Passes over blanks. -/
def skipBlanks : Reading Unit := do let _ ← takeWhile isBlank

/-- Reads a number. -/
def number : Reading Nat := return valueOfDigits 10 (← takeWhile Char.isDigit)

/-- Reads a number that may be left out. -/
def number? : Reading (Option Nat) := do
  skipBlanks
  let digits ← takeWhile Char.isDigit
  return if digits.isEmpty then none else some (valueOfDigits 10 digits)

/-! ## Texts between marks -/

/-- The rest of a set between brackets, up to its end, and what follows it. The fuel bounds the
number of characters. -/
def bracketRest? : (fuel : Nat) → List Char → Option (List Char × List Char)
  | 0, _ | _, [] | _, '\n' :: _ => none
  | _, ']' :: rest => some ([']'], rest)
  | fuel + 1, '\\' :: 'n' :: rest => do
    let (text, after) ← bracketRest? fuel rest
    return ('\n' :: text, after)
  | fuel + 1, '[' :: ':' :: rest =>
    let name := rest.takeWhile Char.isAlpha
    match rest.drop name.length with
    | ':' :: ']' :: after => do
      let (text, after) ← bracketRest? fuel after
      return (['[', ':'] ++ name ++ [':', ']'] ++ text, after)
    | _ => do
      let (text, after) ← bracketRest? fuel (':' :: rest)
      return ('[' :: text, after)
  | fuel + 1, c :: rest => do
    let (text, after) ← bracketRest? fuel rest
    return (c :: text, after)

/-- A set after its opening bracket, and what follows it; a bracket that closes at the very front
belongs to the set. -/
def bracket? (text : List Char) : Option (List Char × List Char) := do
  let front := match text with
    | '^' :: ']' :: _ => ['^', ']']
    | '^' :: _ => ['^']
    | ']' :: _ => [']']
    | _ => []
  let (inner, after) ← bracketRest? (text.length + 1) (text.drop front.length)
  return (front ++ inner, after)

/-- The text up to a mark, and what follows it; without the mark, what is left where the text ends.
A backslash in front of the mark is taken off. In an expression a mark between brackets ends
nothing, and a backslash and an `n` are a line end. The fuel bounds the number of characters. -/
def upTo (mark : Char) (isExpression : Bool) : (fuel : Nat) → List Char →
    Except (List Char) (List Char × List Char)
  | 0, rest => .error rest
  | _, [] => .error []
  | _, '\n' :: rest => .error ('\n' :: rest)
  | fuel + 1, '\\' :: c :: rest => do
    let (text, after) ← upTo mark isExpression fuel rest
    if c = mark then
      return (if c = '&' ∧ !isExpression then ['\\', '&'] ++ text else c :: text, after)
    else if c = 'n' ∧ isExpression then return ('\n' :: text, after)
    else if c = '\n' then return (if isExpression then c :: text else '\\' :: c :: text, after)
    else return ('\\' :: c :: text, after)
  | fuel + 1, c :: rest => do
    if c = mark then return ([], rest)
    if c = '[' ∧ isExpression then
      match bracket? rest with
      | none => .error (rest.dropWhile (· ≠ '\n'))
      | some (inner, after) =>
        let (text, after) ← upTo mark isExpression fuel after
        return ('[' :: inner ++ text, after)
    else
      let (text, after) ← upTo mark isExpression fuel rest
      return (c :: text, after)

/-- Takes the text up to a mark that has to come. -/
def marked (mark : Char) (isExpression : Bool) (error : String) : Reading (List Char) := do
  let s ← get
  match upTo mark isExpression (s.rest.length + 1) s.rest with
  | .ok (text, rest) =>
    set { s with rest }
    return text
  | .error rest =>
    set { s with rest }
    malformed error

/-! ## Escapes -/

/-- The character that a number stands for. -/
def charOf (number : Nat) : Char := Char.ofNat (number % 256)

/-- The character that an escape stands for, after its backslash, and what follows it. -/
def escape? : List Char → Option (Char × List Char)
  | 't' :: rest => some ('\t', rest)
  | 'a' :: rest => some ('\x07', rest)
  | 'f' :: rest => some ('\x0c', rest)
  | 'v' :: rest => some ('\x0b', rest)
  | 'r' :: rest => some ('\r', rest)
  | 'c' :: c :: rest => some (Char.ofNat (c.toUpper.toNat ^^^ 64), rest)
  | 'd' :: rest => digits 10 3 Char.isDigit rest
  | 'o' :: rest => digits 8 3 (fun c => '0' ≤ c && c ≤ '7') rest
  | 'x' :: rest => digits 16 2 (fun c => (Hex.value? c).isSome) rest
  | _ => none
where
  /-- The character whose number is written with a few digits. -/
  digits (base most : Nat) (isDigit : Char → Bool) (rest : List Char) :
      Option (Char × List Char) :=
    match (rest.take most).takeWhile isDigit with
    | [] => none
    | found => some (charOf (valueOfDigits base found), rest.drop found.length)

/-- A text in which escapes that stand for a character are replaced by it. A backslash is put in
front of those characters that would mean something else. The fuel bounds the number of characters.
-/
def withEscapes (meaning : List Char) : (fuel : Nat) → List Char → List Char
  | 0, text => text
  | _, [] => []
  | fuel + 1, '\\' :: rest =>
    match escape? rest with
    | some (c, after) =>
      (if meaning.contains c then ['\\', c] else [c]) ++ withEscapes meaning fuel after
    | none => '\\' :: rest.take 1 ++ withEscapes meaning fuel (rest.drop 1)
  | fuel + 1, c :: rest => c :: withEscapes meaning fuel rest

/-- Reads the text of an expression. -/
def expression (text : List Char) : Reading (Option Regex) := do
  if text.isEmpty then return none
  match Regex.read (← get).form (withEscapes [] (text.length + 1) text) with
  | .ok r => return some r
  | .error .bareClass => throw (.everywhere Regex.Fault.bareClass.message)
  | .error fault => malformed fault.message

/-! ## Addresses -/

/-- Reads an expression that selects lines, after its mark. -/
def fitting (mark : Char) : Reading Address := do
  let text ← marked mark true "unterminated address regex"
  let flags ← takeWhile fun c => c == 'I' || c == 'M'
  return .fitting (← expression text)
    { ignoresCase := flags.contains 'I', byLine := flags.contains 'M' }

/-- Reads an address, if there is one. -/
def address? : Reading (Option Address) := do
  match ← peek? with
  | some '/' =>
    skip
    return some (← fitting '/')
  | some '\\' =>
    skip
    match ← peek? with
    | some mark =>
      skip
      return some (← fitting mark)
    | none => malformed "unterminated address regex"
  | some '$' =>
    skip
    return some .last
  | some c =>
    if !c.isDigit then return none
    let first ← number
    if (← peek?) = some '~' then
      skip
      return some (.step first (← number))
    else return some (.line first)
  | none => return none

/-- Reads the end of a range. -/
def rangeEnd : Reading RangeEnd := do
  match ← peek? with
  | some '+' =>
    skip
    return .after (← number)
  | some '~' =>
    skip
    return .multiple (← number)
  | next =>
    match ← address? with
    | some address => return .at address
    | none =>
      if next.isSome then skip
      malformed "unexpected \x60,'"

/-- Reads which lines a command is for. -/
def selection : Reading Selection := do
  let wrongZero : Reading Selection := do
    skip
    malformed "invalid usage of line address 0"
  match ← address? with
  | none => return .all
  | some first =>
    skipBlanks
    if (← peek?) ≠ some ',' then
      match first with
      | .line 0 => wrongZero
      | first => return .one first
    else
      skip
      skipBlanks
      let stop ← rangeEnd
      match first, stop with
      | .line 0, .at (.fitting ..) => return .range first true stop
      | .line 0, _ => wrongZero
      | first, stop => return .range first false stop

/-! ## Replacements -/

/-- The pieces of a replacement. The fuel bounds the number of characters. -/
def pieces : (fuel : Nat) → List Char → List Piece
  | 0, _ | _, [] => []
  | fuel + 1, '&' :: rest => .group 0 :: pieces fuel rest
  | fuel + 1, '\\' :: c :: rest =>
    let piece := match c with
      | 'n' => .text ['\n']
      | 'L' => .caseChange .lower
      | 'U' => .caseChange .upper
      | 'l' => .caseChange .lowerOne
      | 'u' => .caseChange .upperOne
      | 'E' => .caseChange .none
      | c => if c.isDigit then .group (c.toNat - '0'.toNat) else .text [c]
    piece :: pieces fuel rest
  | fuel + 1, c :: rest => .text [c] :: pieces fuel rest

/-- How many groups an expression has. -/
def groupCount : Regex → Nat
  | .sequence a b | .either a b => groupCount a + groupCount b
  | .repeated body _ _ => groupCount body
  | .group _ body => groupCount body + 1
  | _ => 0

/-- Whether a character ends a command. -/
def endsCommand (c : Char) : Bool := c == '\n' || c == ';' || c == '\x7d' || c == '#'

/-- Reads the name of a file. -/
def fileName : Reading String := do
  skipBlanks
  let path ← takeWhile (· ≠ '\n')
  if path.isEmpty then malformed "missing filename in r/R/w/W commands"
  return String.ofList path

/-- Reads the flags of a replacement. The fuel bounds their number. -/
def flags : (fuel : Nat) → Substitution → Reading Substitution
  | 0, s => return s
  | fuel + 1, s => do
    let many (what : String) : Reading Substitution :=
      malformed ("multiple " ++ what ++ " options to \x60s' command")
    match ← peek? with
    | none => return s
    | some c =>
      if endsCommand c then return s
      if c.isDigit then
        let n ← number
        if n = 0 then malformed "number option to \x60s' command may not be zero"
        if s.occurrence.isSome then many "number"
        else flags fuel { s with occurrence := some n }
      else
        skip
        match c with
        | 'g' => if s.everywhere then many "\x60g'" else flags fuel { s with everywhere := true }
        | 'p' => if s.prints then many "\x60p'" else flags fuel { s with prints := true }
        | 'i' | 'I' => flags fuel { s with manner := { s.manner with ignoresCase := true } }
        | 'm' | 'M' => flags fuel { s with manner := { s.manner with byLine := true } }
        | 'w' => return { s with target := some (← fileName) }
        | c => if isBlank c ∨ c = '\r' then flags fuel s else malformed "unknown option to \x60s'"

/-- Reads a replacement. -/
def substitution : Reading Action := do
  let unterminated := "unterminated \x60s' command"
  match ← peek? with
  | none => malformed unterminated
  | some mark =>
    skip
    let text ← marked mark true unterminated
    let replacement ← marked mark false unterminated
    let replacement := withEscapes ['&', '\\'] (replacement.length + 1) replacement
    let pieces := pieces (replacement.length + 1) replacement
    let s ← flags ((← get).rest.length + 1) { expression := none, pieces }
    let r ← expression text
    match r, pieces.findSome? fun
        | .group n => if r.any (groupCount · < n) then some n else none
        | _ => none with
    | some _, some n =>
      malformed ("invalid reference \\" ++ toString n ++ " on \x60s' command's RHS")
    | r, _ => return .substitute { s with expression := r }

/-- The characters of a text in which backslashes make others plain. -/
def plainChars : List Char → List Char
  | '\\' :: 'n' :: rest => '\n' :: plainChars rest
  | '\\' :: c :: rest => c :: plainChars rest
  | c :: rest => c :: plainChars rest
  | [] => []

/-- Reads a table of characters. -/
def translation : Reading Action := do
  let unterminated := "unterminated \x60y' command"
  match ← peek? with
  | none => malformed unterminated
  | some mark =>
    skip
    let text ← marked mark false unterminated
    let other ← marked mark false unterminated
    let wanted := plainChars (withEscapes ['\\'] (text.length + 1) text)
    let others := plainChars (withEscapes ['\\'] (other.length + 1) other)
    if wanted.length ≠ others.length then
      malformed "strings for \x60y' command are different lengths"
    return .translate (wanted.zip others)

/-! ## Commands -/

/-- The lines of a text that belongs to a command, up to a line end without a backslash in front;
and what follows. -/
def textLines : List Char → List Char × List Char
  | [] | ['\\'] => ([], [])
  | '\\' :: c :: rest =>
    let (text, after) := textLines rest
    (c :: text, after)
  | '\n' :: rest => ([], rest)
  | c :: rest =>
    let (text, after) := textLines rest
    (c :: text, after)

/-- A text in which a backslash and an `n` are a line end that has a backslash in front. -/
def withLineEnds : List Char → List Char
  | '\\' :: 'n' :: rest => '\\' :: '\n' :: withLineEnds rest
  | '\\' :: c :: rest => '\\' :: c :: withLineEnds rest
  | c :: rest => c :: withLineEnds rest
  | [] => []

/-- Reads the text that belongs to a command. -/
def ownText : Reading (List Char) := do
  skipBlanks
  let s ← get
  let take (rest : List Char) : Reading (List Char) := do
    let plain := withLineEnds (withEscapes ['\\', '\n'] (rest.length + 1) rest)
    let (text, rest) := textLines plain
    set { s with rest }
    return text ++ ['\n']
  match s.rest with
  | [] => malformed "expected \\ after \x60a', \x60c' or \x60i'"
  | ['\\'] =>
    skip
    return []
  | '\\' :: rest =>
    match rest.dropWhile isBlank with
    | '\n' :: rest => take rest
    | _ => take rest
  | rest => take rest

/-- Reads the name of a label. -/
def labelName : Reading String := do
  skipBlanks
  let name ← takeWhile fun c => c ≠ '\n' && c ≠ ';' && !isBlank c && c ≠ '\x7d'
  return String.ofList name

/-- Nothing may follow a command but what separates it from the next one. -/
def ending : Reading Unit := do
  skipBlanks
  match ← peek? with
  | none => return
  | some c =>
    if c = '\x7d' ∨ c = '#' then return
    skip
    if c ≠ '\n' ∧ c ≠ ';' then malformed "extra characters after command"

/-- The commands that are one letter. -/
def letterAction? : Char → Option Action
  | 'd' => some .delete
  | 'D' => some .deleteFirst
  | 'p' => some .print
  | 'P' => some .printFirst
  | 'n' => some .next
  | 'N' => some .appendNext
  | 'h' => some .hold
  | 'H' => some .appendHold
  | 'g' => some .get
  | 'G' => some .appendGet
  | 'x' => some .exchange
  | '=' => some .number
  | 'F' => some .path
  | 'z' => some .clear
  | _ => none

/-- Reads what is done to a line, with what has to follow it. -/
def action (c : Char) (selection : Selection) : Reading Action := do
  let ended (read : Reading Action) : Reading Action := do
    let action ← read
    ending
    return action
  let quit (silently : Bool) : Reading Action := do
    if selection matches .range .. then malformed "command only uses one address"
    return .quit ((← number?).getD 0) silently
  match c with
  | 's' => ended substitution
  | 'y' => ended translation
  | 'a' => .append <$> ownText
  | 'i' => .insert <$> ownText
  | 'c' => .change <$> ownText
  | 'q' => ended (quit false)
  | 'Q' => ended (quit true)
  | 'l' => ended (return .list (← number?))
  | 'r' => .readFile <$> fileName
  | 'R' => .readLine <$> fileName
  | 'w' => .writeFile <$> fileName
  | 'W' => .writeFirst <$> fileName
  | 'b' => .branch <$> labelName
  | 't' => .branchIf true <$> labelName
  | 'T' => .branchIf false <$> labelName
  | 'v' =>
    let _ ← labelName
    return .nothing
  | c =>
    match letterAction? c with
    | some action => ended (return action)
    | none => malformed ("unknown command: \x60" ++ c.toString ++ "'")

/-- Adds a command. -/
def add (c : Command) : Reading Unit := modify fun s => { s with commands := s.commands.push c }

/-- Closes the innermost block. -/
def closeBlock : Reading Unit := do
  let s ← get
  match s.opened with
  | [] => malformed "unexpected \x60\x7d'"
  | (start, _) :: opened =>
    let stop := s.commands.size
    let commands := s.commands.modify start fun c => { c with action := .block stop }
    set { s with commands, opened }
    ending

/-- Reads the sign that turns the selection of a command round. -/
def negation : Reading Bool := do
  skipBlanks
  if (← peek?) ≠ some '!' then return false
  skip
  skipBlanks
  if (← peek?) = some '!' then
    skip
    malformed "multiple \x60!'s"
  return true

/-- Reads commands. The fuel bounds their number. -/
def readCommands : (fuel : Nat) → Reading Unit
  | 0 => return
  | fuel + 1 => do
    let _ ← takeWhile fun c => isBlank c || c == ';' || c == '\n'
    if (← peek?).isNone then return
    let selection ← selection
    let negated ← negation
    match ← peek? with
    | none => malformed "missing command"
    | some c =>
      skip
      match c with
      | '#' =>
        if !(selection matches .all) then malformed "comments don't accept any addresses"
        let _ ← takeWhile (· ≠ '\n')
      | ':' =>
        if !(selection matches .all) then malformed ": doesn't want any addresses"
        let name ← labelName
        if name.isEmpty then malformed "\":\" lacks a label"
        add { action := .label name }
      | '\x7b' =>
        let s ← get
        add { selection, negated, action := .block 0 }
        modify fun t => { t with opened := (s.commands.size, s.rest.length) :: t.opened }
      | '\x7d' => closeBlock
      | c =>
        if endsCommand c then malformed "missing command"
        let action ← action c selection
        add { selection, negated, action }
      readCommands fuel

/-! ## Whole scripts -/

/-- Where a position of the whole script lies: in which part, which argument that is, and how far
into the part. -/
def placeIn : (argument : Nat) → (position : Nat) → List ScriptPart → ScriptPart × Nat × Nat
  | argument, position, [] => (default, argument, position)
  | argument, position, part :: rest =>
    let argument := if part.file.isSome then argument else argument + 1
    if position ≤ part.text.length ∨ rest.isEmpty then (part, argument, position)
    else placeIn argument (position - part.text.length - 1) rest

/-- What is said about a fault at a position of the whole script; without `exact`, the place in an
argument is not told. -/
def describe (parts : List ScriptPart) (position : Nat) (exact : Bool) (text : String) : String :=
  let (part, argument, position) := placeIn 0 position parts
  match part.file with
  | some name =>
    let line := ((part.text.take position).dropLast.filter (· = '\n')).length + 1
    "sed: file " ++ name ++ " line " ++ toString line ++ ": " ++ text
  | none =>
    "sed: -e expression #" ++ toString argument ++ ", char " ++
      toString (if exact then position else 0) ++ ": " ++ text

/-- Reads the commands of a script; tells what is wrong with it, if something is, and the status in
which a program ends then. -/
def read (extended : Bool) (parts : List ScriptPart) : Except (String × Nat) (Array Command) :=
  let text := ['\n'].intercalate (parts.map (·.text))
  let form : Regex.Form := { extended, strict := true }
  match (readCommands (text.length + 1)).run { rest := text, form } with
  | .error (.at what left) => .error (describe parts (text.length - left) true what, 1)
  | .error (.everywhere what) => .error ("sed: " ++ what, 4)
  | .ok (_, s) =>
    match s.opened with
    | (_, left) :: _ => .error (describe parts (text.length - left) false "unmatched \x60\x7b'", 1)
    | [] =>
      match (s.commands.toList.filterMap Command.target?).find? fun name =>
        !s.commands.any (Command.isLabel name) with
      | some name => .error ("sed: can't find label for jump to \x60" ++ name ++ "'", 4)
      | none => .ok s.commands

end WasmBindings.Shell.Editing
