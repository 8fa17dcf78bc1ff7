import WasmBindings.Shell.Syntax
import WasmBindings.Text.Octet

/-!
# Words and other tokens

A script is read from its characters, token by token. A word may hold commands, so its reader is
given the reader for a list of commands; all that is read here ends because every step takes a
character away.
-/

namespace WasmBindings.Shell

/-- A token. -/
inductive Token where
  | word (parts : Word)
  | mark (text : String)
  | redirect (stream : Nat) (kind : RedirectKind)
  /-- The beginning of a text that stands in the lines below, maybe without the tabs in front. -/
  | document (stream : Nat) (withoutTabs : Bool)
  | ending

/-- How far a script has been read. -/
structure Cursor where
  rest : List Char
  line : Nat := 1
  /-- How many lines have been taken out below the line that is being read. -/
  skipped : Nat := 0
  /-- A token that was looked at and not yet used. -/
  ahead : Option Token := none
  dialect : Dialect := .plain

/-- A reader of scripts. -/
abbrev Scanner := StateT Cursor (Except SyntaxError)

namespace Scanner

/-- The script is malformed here. -/
def fail {α : Type} (text : String) : Scanner α := fun c => .error ⟨c.line, text⟩

/-- The next character, which stays. -/
def peek? : Scanner (Option Char) := return (← get).rest.head?

/-- Passes over the next character. -/
def skip : Scanner Unit := modify fun c =>
  match c.rest with
  | '\n' :: rest => { c with rest, line := c.line + 1 + c.skipped, skipped := 0 }
  | _ :: rest => { c with rest }
  | [] => c

/-- Passes over line ends that are escaped by a backslash. -/
def joinLines (line : Nat) : List Char → Nat × List Char
  | '\\' :: '\n' :: rest => joinLines (line + 1) rest
  | rest => (line, rest)

/-- The next character after escaped line ends, which stays. -/
def peekJoined? : Scanner (Option Char) := do
  let c ← get
  let (line, rest) := joinLines c.line c.rest
  set { c with line, rest }
  return rest.head?

/-- Whether the dialect has more than the plain features. -/
def isExtended : Scanner Bool := return (← get).dialect = .extended

/-- Takes the characters in front that are all of a kind. -/
def takeWhile (kind : Char → Bool) : Scanner (List Char) := do
  let c ← get
  let text := c.rest.takeWhile kind
  set { c with rest := c.rest.drop text.length, line := c.line + text.count '\n' }
  return text

end Scanner

open Scanner

/-! ## Words -/

/-- Where a part of a word stands, which says what ends it and what is quoted in it. -/
inductive Context where
  /-- By itself: up to a blank or an operator. -/
  | bare
  /-- Between double quotes. -/
  | quoted
  /-- In a text of lines of its own, up to a line that is the delimiter; maybe the tabs in front of
  the lines do not count. -/
  | document (delimiter : List Char) (withoutTabs : Bool)
  /-- Inside the braces of a parameter. -/
  | braces (inQuotes : Bool)
  /-- Inside an arithmetic expression, with so many brackets open. -/
  | arithmetic (depth : Nat)
  deriving DecidableEq, Repr

namespace Context

/-- Whether text in this context is quoted. -/
def isQuoted : Context → Bool
  | bare => false
  | braces inQuotes => inQuotes
  | _ => true

/-- The characters whose meaning a backslash takes away. -/
def escapable : Context → List Char
  | quoted => ['$', '\x60', '"', '\\']
  | document .. => ['$', '\x60', '\\']
  | braces true => ['$', '\x60', '"', '\\', '\x7d']
  | _ => []

end Context

/-- A part in front of others; texts of the same kind are one. -/
def joinPart : Part → Word → Word
  | .literal a p, .literal b q :: rest =>
    if p = q then .literal (a ++ b) p :: rest else .literal a p :: .literal b q :: rest
  | part, rest => part :: rest

/-- The text up to a single quote, which is passed over. -/
def singleQuoted : Scanner (List Char) := do
  let text ← takeWhile (· ≠ '\'')
  if (← peek?).isNone then fail "Unterminated quoted string"
  skip
  return text

/-- The text of a command between backquotes, whose own backslashes are taken off. -/
def backquoted (quoted : Bool) : (fuel : Nat) → Scanner (List Char)
  | 0 => fail "EOF in backquote substitution"
  | fuel + 1 => do
    match ← peek? with
    | none => fail "EOF in backquote substitution"
    | some '\x60' =>
      skip
      return []
    | some '\\' =>
      skip
      match ← peek? with
      | none => fail "EOF in backquote substitution"
      | some '\n' =>
        skip
        backquoted quoted fuel
      | some c =>
        skip
        let plain := ['\\', '\x60', '$'].contains c || (quoted && c == '"')
        let rest ← backquoted quoted fuel
        return if plain then c :: rest else '\\' :: c :: rest
    | some c =>
      skip
      return c :: (← backquoted quoted fuel)

/-- The value of some digits in a base. -/
def valueOfDigits (base : Nat) (digits : List Char) : Nat :=
  digits.foldl (fun n c => base * n + (Hex.value? c).getD 0) 0

/-- Whether a character is an octal digit. -/
def isOctal (c : Char) : Bool := '0' ≤ c && c ≤ '7'

/-- The character of an escape that is named by one letter. -/
def letterEscape? : Char → Option Char
  | 'a' => some '\x07'
  | 'b' => some '\x08'
  | 'f' => some '\x0c'
  | 'n' => some '\n'
  | 'r' => some '\r'
  | 't' => some '\t'
  | 'v' => some '\x0b'
  | '\\' => some '\\'
  | _ => none

/-- What a backslash begins in a text with escapes, and what follows it. -/
def escapeIn : List Char → List Char × List Char
  | [] => (['\\'], [])
  | 'x' :: rest =>
    match (rest.take 2).takeWhile fun c => (Hex.value? c).isSome with
    | [] => (['\\', 'x'], rest)
    | digits => ([Char.ofNat (valueOfDigits 16 digits)], rest.drop digits.length)
  | c :: rest =>
    match letterEscape? c with
    | some plain => ([plain], rest)
    | none =>
      if c = 'e' ∨ c = 'E' then (['\x1b'], rest)
      else if ['\'', '"', '?'].contains c then ([c], rest)
      else
        match ((c :: rest).take 3).takeWhile isOctal with
        | [] => (['\\', c], rest)
        | digits =>
          ([Char.ofNat (valueOfDigits 8 digits % 256)], (c :: rest).drop digits.length)

/-- The text with escapes up to a single quote, and what follows it. -/
def escapedText : (fuel : Nat) → List Char → Option (List Char × List Char)
  | 0, _ | _, [] => none
  | _, '\'' :: rest => some ([], rest)
  | fuel + 1, '\\' :: rest => do
    let (front, rest) := escapeIn rest
    let (text, rest) ← escapedText fuel rest
    return (front ++ text, rest)
  | fuel + 1, c :: rest => do
    let (text, rest) ← escapedText fuel rest
    return (c :: text, rest)

/-- Reads a list of commands from a text of its own. -/
def embedded (list : Scanner Statement) (text : List Char) : Scanner Statement := do
  let c ← get
  let outcome ← list.run { rest := text, dialect := c.dialect }
  return outcome.1

/-- The wording for a token that is out of place. -/
def Token.describe (reserved : List String) : Token → String
  | .word [.literal text false] =>
    if reserved.contains (String.ofList text) then "\"" ++ String.ofList text ++ "\"" else "word"
  | .word _ => "word"
  | .mark "\n" => "newline"
  | .mark text => "\"" ++ text ++ "\""
  | .redirect .. | .document .. => "redirection"
  | .ending => "end of file"

/-- The words that have a meaning of their own where a command is expected. -/
def reserved : List String :=
  ["!", "case", "do", "done", "elif", "else", "esac", "fi", "for", "if", "in", "then", "until",
    "while", "\x7b", "\x7d"]

/-- A token is out of place, maybe where another one is expected. -/
def unexpected {α : Type} (token : Token) (expected : Option String) : Scanner α :=
  fail (token.describe reserved ++ " unexpected" ++
    match expected with
    | some mark => " (expecting \"" ++ mark ++ "\")"
    | none => "")

/-- A list of commands up to a closing bracket. -/
def bracketed (list : Scanner Statement) : Scanner Statement := do
  let body ← list
  match (← get).ahead with
  | some (.mark ")") =>
    modify fun c => { c with ahead := none }
    return body
  | some token => unexpected token (some ")")
  | none => unexpected .ending (some ")")

/-- Passes over a character that is out of place inside braces; a line end there does not count. -/
def swallow : Scanner Unit := modify fun c => { c with rest := c.rest.drop 1 }

/-- What is done with a parameter, after its name. -/
def modifier : Scanner Modifier := do
  let orEmpty := (← peekJoined?) = some ':'
  if orEmpty then skip
  let doubled (c : Char) : Scanner Bool := do
    let again := (← peekJoined?) = some c
    if again then skip
    return again
  match ← peekJoined? with
  | some '\x7d' => if orEmpty then return .invalid else return .value
  | some '-' => skip; return .fallback orEmpty
  | some '=' => skip; return .assign orEmpty
  | some '?' => skip; return .require orEmpty
  | some '+' => skip; return .alternative orEmpty
  | some c =>
    if orEmpty then
      if ← isExtended then return .slice
      swallow
      return .invalid
    match c, ← isExtended with
    | '#', _ => skip; return .trim false (← doubled '#')
    | '%', _ => skip; return .trim true (← doubled '%')
    | '^', true => skip; return .letterCase true (← doubled '^')
    | ',', true => skip; return .letterCase false (← doubled ',')
    | '/', true =>
      skip
      match ← peekJoined? with
      | some '/' => skip; return .replace true none
      | some '#' => skip; return .replace false (some false)
      | some '%' => skip; return .replace false (some true)
      | _ => return .replace false none
    | _, isExtended =>
      if !isExtended then swallow
      return .invalid
  | none => return .invalid

/-- The name of a parameter inside braces, and whether its length is asked for. -/
def parameterName : Scanner (List Char × Bool) := do
  match ← peekJoined? with
  | some '#' =>
    skip
    match ← peekJoined? with
    | some c =>
      if isNameChar c then
        let name ← takeWhile (if c.isDigit then Char.isDigit else isNameChar)
        return (name, true)
      else if c ≠ '\x7d' ∧ isSpecial c ∧ (← get).rest[1]? = some '\x7d' then
        skip
        return ([c], true)
      else return (['#'], false)
    | none => return (['#'], false)
  | some c =>
    if c.isDigit then return (← takeWhile Char.isDigit, false)
    else if isNameChar c then return (← takeWhile isNameChar, false)
    else if isSpecial c then
      skip
      return ([c], false)
    else return ([], false)
  | none => return ([], false)

/-- A word cut in two at its first unquoted mark, if it has one. -/
def splitAtMark (mark : Char) : Word → Word × Option Word
  | [] => ([], none)
  | .literal text false :: rest =>
    match text.dropWhile (· ≠ mark) with
    | _ :: after =>
      ([.literal (text.takeWhile (· ≠ mark)) false], some (.literal after false :: rest))
    | [] =>
      let (front, back) := splitAtMark mark rest
      (.literal text false :: front, back)
  | part :: rest =>
    let (front, back) := splitAtMark mark rest
    (part :: front, back)

/-- The operands of a modifier, of which those of a slice and a replacement have a mark between
them. -/
def operandsOf (modifier : Modifier) (word : Word) : List Word :=
  let divided (mark : Char) : List Word :=
    match splitAtMark mark word with
    | (front, some back) => [front, back]
    | (front, none) => [front]
  match modifier with
  | .slice => divided ':'
  | .replace .. => divided '/'
  | _ => [word]

/-- A parameter inside braces, after the opening one. -/
def braced (inner : Context → Scanner Word) (quoted : Bool) : Scanner Part := do
  let indirect := (← isExtended) && (← get).rest.head? = some '!' &&
    ((← get).rest[1]?.map isNameChar).getD false
  if indirect then skip
  let (name, ofLength) ← parameterName
  let modifier ←
    if !name.isEmpty || (← isExtended) then modifier
    else do
      if (← get).rest.head? ≠ some '\x7d' then swallow
      pure .invalid
  let context : Context := match modifier with
    | .trim .. | .replace .. | .letterCase .. | .slice => .braces false
    | _ => .braces quoted
  let word ← inner context
  let modifier :=
    if name.isEmpty then .invalid
    else if indirect then .indirect
    else if ofLength then if modifier = .value then .length else .invalid
    else modifier
  return .parameter name modifier (operandsOf modifier word) quoted

/-- What a dollar sign begins, which is passed over already. -/
def dollar (list : Scanner Statement) (inner : Context → Scanner Word) (quoted : Bool) :
    Scanner Part := do
  match ← peekJoined? with
  | some '(' =>
    skip
    if (← peekJoined?) = some '(' then
      skip
      return .arithmetic (← inner (.arithmetic 0)) quoted
    else return .output (← bracketed list) quoted
  | some '\x7b' =>
    skip
    braced inner quoted
  | some c =>
    if isSpecial c then
      skip
      return .parameter [c] .value [] quoted
    else if isNameChar c then return .parameter (← takeWhile isNameChar) .value [] quoted
    else if c = '\'' ∧ !quoted ∧ (← isExtended) then
      skip
      let c ← get
      match escapedText (c.rest.length + 1) c.rest with
      | some (text, rest) =>
        set { c with rest }
        return .literal text true
      | none => fail "Unterminated quoted string"
    else return .literal ['$'] quoted
  | none => return .literal ['$'] quoted

/-- Cuts a text at its first line end, which is in neither part. -/
def splitLine (text : List Char) : List Char × Option (List Char) :=
  match text.dropWhile (· ≠ '\n') with
  | _ :: rest => (text.takeWhile (· ≠ '\n'), some rest)
  | [] => (text, none)

/-- Passes over the next line if it is the delimiter of a text, or else over the tabs in front of it
where they do not count; says which. -/
def endsDocument (delimiter : List Char) (withoutTabs : Bool) : Scanner Bool := do
  let c ← get
  let text := if withoutTabs then c.rest.dropWhile (· = '\t') else c.rest
  let (line, rest) := splitLine text
  if line = delimiter then
    set { c with rest := rest.getD [], line := c.line + 1 }
    return true
  else
    set { c with rest := text }
    return false

/-- The parts of a word, up to what ends it in its context. The fuel bounds the number of
characters. -/
def parts (list : Scanner Statement) : (fuel : Nat) → Context → Scanner Word
  | 0, _ => fail "Unterminated quoted string"
  | fuel + 1, context => do
    let more (part : Part) : Scanner Word := return joinPart part (← parts list fuel context)
    let text (c : Char) : Scanner Word := do
      skip
      more (.literal [c] context.isQuoted)
    match ← peek? with
    | none =>
      match context with
      | .bare | .document .. => return []
      | .quoted => fail "Unterminated quoted string"
      | .braces _ => fail "Missing '\x7d'"
      | .arithmetic _ => fail "Missing '))'"
    | some '$' =>
      skip
      more (← dollar list (parts list fuel) context.isQuoted)
    | some '\x60' =>
      skip
      let source ← backquoted context.isQuoted (fuel + 1)
      more (.output (← embedded list source) context.isQuoted)
    | some '\\' =>
      skip
      match ← peek? with
      | some '\n' =>
        skip
        parts list fuel context
      | some c =>
        skip
        match context with
        | .bare | .braces false => more (.literal [c] true)
        | _ =>
          if context.escapable.contains c then more (.literal [c] true)
          else more (.literal ['\\', c] true)
      | none => more (.literal ['\\'] true)
    | some c =>
      match context, c with
      | .quoted, '"' | .braces _, '\x7d' =>
        skip
        return []
      | .braces true, '"' | .arithmetic _, '"' =>
        skip
        parts list fuel context
      | .arithmetic depth, '(' =>
        skip
        return joinPart (.literal ['('] true) (← parts list fuel (.arithmetic (depth + 1)))
      | .arithmetic 0, ')' =>
        skip
        if (← peekJoined?) = some ')' then
          skip
          return []
        else more (.literal [')'] true)
      | .arithmetic (depth + 1), ')' =>
        skip
        return joinPart (.literal [')'] true) (← parts list fuel (.arithmetic depth))
      | .bare, '\'' | .braces false, '\'' =>
        skip
        more (.literal (← singleQuoted) true)
      | .bare, '"' | .braces false, '"' =>
        skip
        match ← parts list fuel .quoted with
        | [] => more (.literal [] true)
        | inner => return inner.foldr joinPart (← parts list fuel context)
      | .bare, c => if endsWord c then return [] else text c
      | .document delimiter withoutTabs, '\n' =>
        skip
        if ← endsDocument delimiter withoutTabs then return [.literal ['\n'] true]
        else more (.literal ['\n'] true)
      | _, c => text c

/-! ## Tokens -/

/-- Passes over blanks, escaped line ends and a comment. -/
def afterBlanks (line : Nat) : List Char → Nat × List Char
  | ' ' :: rest | '\t' :: rest => afterBlanks line rest
  | '\\' :: '\n' :: rest => afterBlanks (line + 1) rest
  | '#' :: rest => (line, rest.dropWhile (· ≠ '\n'))
  | rest => (line, rest)

/-- The redirection at the front of a text, and what follows it. -/
def redirection? (dialect : Dialect) (stream : Option Nat) : List Char → Option (Token × List Char)
  | '>' :: rest =>
    let stream := stream.getD 1
    match rest with
    | '>' :: rest => some (.redirect stream .append, rest)
    | '&' :: rest => some (.redirect stream .duplicate, rest)
    | '|' :: rest => some (.redirect stream .overwrite, rest)
    | rest => some (.redirect stream .write, rest)
  | '<' :: rest =>
    let stream := stream.getD 0
    match rest with
    | '<' :: '-' :: rest => some (.document stream true, rest)
    | '<' :: '<' :: rest =>
      if dialect = .extended then some (.redirect stream .text, rest)
      else some (.document stream false, '<' :: rest)
    | '<' :: rest => some (.document stream false, rest)
    | '&' :: rest => some (.redirect stream .duplicate, rest)
    | '>' :: rest => some (.redirect stream .readWrite, rest)
    | rest => some (.redirect stream .read, rest)
  | _ => none

/-- The operator or redirection at the front of a text, and what follows it. -/
def operator? (dialect : Dialect) : List Char → Option (Token × List Char)
  | '&' :: '&' :: rest => some (.mark "&&", rest)
  | '&' :: '>' :: rest =>
    if dialect = .extended then some (.redirect 1 .writeBoth, rest)
    else some (.mark "&", '>' :: rest)
  | '|' :: '|' :: rest => some (.mark "||", rest)
  | ';' :: ';' :: rest => some (.mark ";;", rest)
  | ';' :: rest => some (.mark ";", rest)
  | '&' :: rest => some (.mark "&", rest)
  | '|' :: rest => some (.mark "|", rest)
  | '(' :: rest => some (.mark "(", rest)
  | ')' :: rest => some (.mark ")", rest)
  | c :: rest =>
    if c.isDigit then redirection? dialect (some (c.toNat - '0'.toNat)) rest
    else redirection? dialect none (c :: rest)
  | [] => none

/-- Reads the next token. -/
def token (list : Scanner Statement) : Scanner Token := do
  let c ← get
  let (line, rest) := afterBlanks c.line c.rest
  set { c with line, rest }
  match rest with
  | [] => return .ending
  | '\n' :: _ =>
    skip
    return .mark "\n"
  | rest =>
    match operator? c.dialect rest with
    | some (token, rest) =>
      set { c with line, rest }
      return token
    | none => return .word (← parts list (rest.length + 1) .bare)

/-- Looks at the next token, which stays. -/
def peekToken (list : Scanner Statement) : Scanner Token := do
  match (← get).ahead with
  | some token => return token
  | none =>
    let token ← token list
    modify fun c => { c with ahead := some token }
    return token

/-- Passes over the token that was looked at. -/
def advance : Scanner Unit := modify fun c => { c with ahead := none }

/-! ## Texts in lines of their own -/

/-- The lines up to a delimiter, how many lines that takes, and what follows. The fuel bounds the
number of lines. -/
def documentLines (withoutTabs : Bool) (delimiter : List Char) :
    (fuel : Nat) → List Char → List Char × Nat × List Char
  | 0, text => ([], 0, text)
  | fuel + 1, text =>
    let (line, rest) := splitLine text
    let line := if withoutTabs then line.dropWhile (· = '\t') else line
    if line = delimiter then ([], 1, rest.getD [])
    else
      match rest with
      | none => (line, 0, [])
      | some rest =>
        let (body, count, rest) := documentLines withoutTabs delimiter fuel rest
        (line ++ '\n' :: body, count + 1, rest)

/-- The text of a word without its quotes, and whether there are any. -/
def delimiterOf (word : Word) : List Char × Bool :=
  (word.flatMap fun
    | .literal text _ => text
    | .parameter name .. => '$' :: name
    | _ => [],
    word.any fun
    | .literal _ quoted => quoted
    | _ => false)

/-- Takes the lines up to a delimiter out of what follows the present line. Expansions happen in
them unless the delimiter was quoted. -/
def document (list : Scanner Statement) (withoutTabs : Bool) (word : Word) : Scanner Word := do
  let (delimiter, quoted) := delimiterOf word
  let c ← get
  match splitLine c.rest with
  | (_, none) => return [.literal [] true]
  | (front, some below) =>
    let on (text : Word) (rest : List Char) (count : Nat) : Scanner Word := do
      set { c with rest := front ++ '\n' :: rest, skipped := c.skipped + count }
      return text
    if quoted then
      let (body, count, rest) := documentLines withoutTabs delimiter (below.length + 1) below
      on [.literal body true] rest count
    else
      let start := c.line + 1 + c.skipped
      let context : Context := .document delimiter withoutTabs
      let inside : Scanner Word := do
        if ← endsDocument delimiter withoutTabs then return [.literal [] true]
        else parts list (below.length + 1) context
      let (text, after) ← inside.run { rest := below, line := start, dialect := c.dialect }
      on text after.rest (after.line - start)

end WasmBindings.Shell
