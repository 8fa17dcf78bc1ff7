import WasmBindings.Shell.Lexer

/-!
# Commands of a script

Commands are read by descent. All readers here are given the reader for the commands inside of
others, at the extents in which those can stand; `commands` ties the knot, and its fuel bounds how
deep commands nest.
-/

namespace WasmBindings.Shell

open Scanner

/-- How far a reader of commands goes. -/
inductive Extent where
  /-- To the end of the line. -/
  | line
  /-- To a word or mark that ends a list, with a command before it. -/
  | block
  /-- The same, where a command may be missing. -/
  | optional
  /-- One command. -/
  | single
  deriving DecidableEq, Repr

/-- The reader for commands inside of others. -/
abbrev Inner := Extent → Scanner Statement

namespace Grammar

variable (inner : Inner)

/-- Looks at the next token. -/
def peek : Scanner Token := peekToken (inner .optional)

/-- The text of a token that is a word without quotes and expansions. -/
def plain? : Token → Option String
  | .word [.literal text false] => some (String.ofList text)
  | _ => none

/-- The reserved word or the mark that a token is. -/
def mark? : Token → Option String
  | .mark text => some text
  | token => (plain? token).filter reserved.contains

/-- Passes over a reserved word or mark that comes next, if it does. -/
def accept (mark : String) : Scanner Bool := do
  if mark? (← peek inner) = some mark then
    advance
    return true
  else return false

/-- Passes over a reserved word or mark that has to come next. -/
def expect (mark : String) : Scanner Unit := do
  if !(← accept inner mark) then unexpected (← peek inner) (some mark)

/-- Passes over line ends. The fuel bounds their number. -/
def skipLineEnds : (fuel : Nat) → Scanner Unit
  | 0 => return
  | fuel + 1 => do if ← accept inner "\n" then skipLineEnds fuel

/-- A number of steps that no loop over the rest of the script exceeds. -/
def enough : Scanner Nat := return (← get).rest.length + 2

/-- Passes over all line ends. -/
def lineEnds : Scanner Unit := do skipLineEnds inner (← enough)

/-- The next token, which has to be a word. -/
def expectWord (expected : Option String) : Scanner Word := do
  match ← peek inner with
  | .word parts =>
    advance
    return parts
  | token => unexpected token expected

/-! ## Redirections and simple commands -/

/-- The redirection that comes next, if one does. -/
def redirect? : Scanner (Option (Redirect Word)) := do
  match ← peek inner with
  | .redirect stream kind =>
    advance
    let target ← expectWord inner none
    return some ⟨stream, kind,
      if kind = .text then target ++ [.literal ['\n'] true] else target⟩
  | .document stream withoutTabs =>
    advance
    let delimiter ← expectWord inner none
    return some ⟨stream, .text, ← document (inner .optional) withoutTabs delimiter⟩
  | _ => return none

/-- A row of redirections. -/
def redirects : (fuel : Nat) → Scanner (List (Redirect Word))
  | 0 => return []
  | fuel + 1 => do
    match ← redirect? inner with
    | some r => return r :: (← redirects fuel)
    | none => return []

/-- The variable and value of a word that is an assignment. -/
def assignment? (dialect : Dialect) : Word → Option (Assignment Word)
  | .literal text false :: parts =>
    let name := text.takeWhile isNameChar
    let value (after : List Char) : Word :=
      if after.isEmpty then parts else .literal after false :: parts
    if !isName name then none
    else
      match text.drop name.length with
      | '=' :: after => some ⟨name, false, value after⟩
      | '+' :: '=' :: after =>
        if dialect = .extended then some ⟨name, true, value after⟩ else none
      | _ => none
  | _ => none

/-- The rest of a simple command: assignments as long as there is no word yet, words and
redirections. A name with brackets after it begins a definition. -/
def simpleRest (line : Nat) : (fuel : Nat) → List (Assignment Word) → List Word →
    List (Redirect Word) → Scanner Statement
  | 0, assignments, words, redirects => return .simple line assignments words redirects
  | fuel + 1, assignments, words, redirects => do
    match ← peek inner with
    | .word parts =>
      advance
      let dialect := (← get).dialect
      match if words.isEmpty then assignment? dialect parts else none with
      | some assignment => simpleRest line fuel (assignments ++ [assignment]) words redirects
      | none => simpleRest line fuel assignments (words ++ [parts]) redirects
    | .mark "(" =>
      match assignments, words, redirects with
      | [], [word], [] =>
        advance
        match ← peek inner with
        | .mark ")" => advance
        | .word _ => fail "word unexpected (expecting \")\")"
        | token => unexpected token (some ")")
        let name := (delimiterOf word).1
        if !isName name ∨ (delimiterOf word).2 then fail "Bad function name"
        else if special.contains (String.ofList name) then fail "Bad function name"
        lineEnds inner
        return .define name (← inner .single)
      | _, _, _ => return .simple line assignments words redirects
    | _ =>
      match ← redirect? inner with
      | some r => simpleRest line fuel assignments words (redirects ++ [r])
      | none => return .simple line assignments words redirects
where
  /-- The names that no function can have. -/
  special : List String :=
    [".", ":", "break", "continue", "eval", "exec", "exit", "export", "readonly", "return", "set",
      "shift", "times", "trap", "unset"]

/-! ## Compound commands -/

/-- What follows the first branch of a condition. -/
def branches : (fuel : Nat) → Scanner Statement
  | 0 => fail "nested too deeply"
  | fuel + 1 => do
    if ← accept inner "elif" then
      let test ← inner .block
      expect inner "then"
      let yes ← inner .block
      return .condition test yes (← branches fuel)
    else if ← accept inner "else" then
      let no ← inner .block
      expect inner "fi"
      return no
    else
      expect inner "fi"
      return .nothing

/-- A row of words, up to a mark. -/
def words : (fuel : Nat) → Scanner (List Word)
  | 0 => return []
  | fuel + 1 => do
    match ← peek inner with
    | .word parts =>
      advance
      return parts :: (← words fuel)
    | _ => return []

/-- A command for each of some words, or for each argument. -/
def forEach (line : Nat) : Scanner Statement := do
  let name ← match ← peek inner with
    | .word [.literal name false] =>
      if isName name then
        advance
        pure name
      else fail "Bad for loop variable"
    | _ => fail "Bad for loop variable"
  lineEnds inner
  let items ←
    if ← accept inner "in" then
      let items ← words inner (← enough)
      match mark? (← peek inner) with
      | some ";" | some "\n" => advance
      | _ => unexpected (← peek inner) none
      pure items
    else
      let _ ← accept inner ";"
      pure [[.parameter ['@'] .value [] true]]
  lineEnds inner
  if (← isExtended) ∧ mark? (← peek inner) = some "\x7b" then
    advance
    let body ← inner .block
    expect inner "\x7d"
    return .each line name items body
  expect inner "do"
  let body ← inner .block
  expect inner "done"
  return .each line name items body

/-- The patterns of a branch, up to the bracket that ends them. -/
def patterns : (fuel : Nat) → Scanner (List Word)
  | 0 => fail "nested too deeply"
  | fuel + 1 => do
    let pattern ← expectWord inner (some ")")
    if ← accept inner "|" then return pattern :: (← patterns fuel)
    else
      expect inner ")"
      return [pattern]

/-- The branches of a choice, up to its end. -/
def choices : (fuel : Nat) → Scanner (List (List Word × Statement))
  | 0 => fail "nested too deeply"
  | fuel + 1 => do
    lineEnds inner
    if ← accept inner "esac" then return []
    let _ ← accept inner "("
    let patterns ← patterns inner (fuel + 1)
    let body ← inner .optional
    lineEnds inner
    if ← accept inner "esac" then return [(patterns, body)]
    expect inner ";;"
    return (patterns, body) :: (← choices fuel)

/-- A choice between branches by patterns. -/
def choice (line : Nat) : Scanner Statement := do
  let subject ← expectWord inner (some "word")
  lineEnds inner
  expect inner "in"
  return .choice line subject (← choices inner (← enough))

/-- A loop. -/
def loop (whileTrue : Bool) : Scanner Statement := do
  let test ← inner .block
  expect inner "do"
  let body ← inner .block
  expect inner "done"
  return .repeated whileTrue test body

/-- An arithmetic expression as a command, after its first bracket. -/
def computation (line : Nat) : Scanner Statement := do
  skip
  return .compute line (← parts (inner .optional) (← enough) (.arithmetic 0))

/-! ## Conditions in double brackets -/

/-- The words of a condition up to what ends it, of which operators are words like others. -/
def questionWords : (fuel : Nat) → Scanner (List Word)
  | 0 => return []
  | fuel + 1 => do
    match ← peek inner with
    | .word parts =>
      if plain? (.word parts) = some "]]" then return []
      advance
      return parts :: (← questionWords fuel)
    | .redirect _ .read =>
      advance
      return [.literal ['<'] true] :: (← questionWords fuel)
    | .redirect _ .write =>
      advance
      return [.literal ['>'] true] :: (← questionWords fuel)
    | _ => return []

/-- A condition: alternatives (`0`), all of several (`1`), or one that may be negated (`2`). -/
def conditions (line : Nat) : (fuel : Nat) → (level : Nat) → Scanner Statement
  | 0, _ => fail "nested too deeply"
  | fuel + 1, 0 => do
    let first ← conditions line fuel 1
    if ← accept inner "||" then return .either first (← conditions line fuel 0)
    else return first
  | fuel + 1, 1 => do
    let first ← conditions line fuel 2
    if ← accept inner "&&" then return .both first (← conditions line fuel 1)
    else return first
  | fuel + 1, level => do
    lineEnds inner
    if ← accept inner "!" then return .negated (← conditions line fuel level)
    else if ← accept inner "(" then
      let body ← conditions line fuel 0
      expect inner ")"
      return body
    else return .question line (← questionWords inner (← enough))

/-! ## All commands -/

/-- A compound command that begins with a given word or mark, which is passed over. -/
def compound (line : Nat) (mark : String) : Scanner Statement := do
  advance
  match mark with
  | "if" =>
    let test ← inner .block
    expect inner "then"
    let yes ← inner .block
    return .condition test yes (← branches inner (← enough))
  | "for" => forEach inner line
  | "case" => choice inner line
  | "while" => loop inner true
  | "until" => loop inner false
  | "\x7b" =>
    let body ← inner .block
    expect inner "\x7d"
    return body
  | _ =>
    if (← isExtended) ∧ (← get).rest.head? = some '(' then computation inner line
    else
      let body ← inner .block
      expect inner ")"
      return .subshell line body

/-- A definition with a word in front that says so. -/
def definition : Scanner Statement := do
  advance
  let name := (delimiterOf (← expectWord inner none)).1
  if ← accept inner "(" then expect inner ")"
  lineEnds inner
  return .define name (← inner .single)

/-- A condition in double brackets. -/
def condition (line : Nat) : Scanner Statement := do
  advance
  let body ← conditions inner line (← enough) 0
  match plain? (← peek inner) with
  | some "]]" =>
    advance
    return body
  | _ => unexpected (← peek inner) none

/-- One command. -/
def command : Scanner Statement := do
  let token ← peek inner
  let line := (← get).line
  let begins := ["if", "for", "case", "while", "until", "\x7b", "("]
  let extended ← isExtended
  let body ←
    match mark? token with
    | some mark => if begins.contains mark then compound inner line mark else unexpected token none
    | none =>
      match token, extended, plain? token with
      | _, true, some "[[" => condition inner line
      | _, true, some "function" => definition inner
      | .ending, _, _ => unexpected token none
      | _, _, _ => return ← simpleRest inner line (← enough) [] [] []
  match ← redirects inner (← enough) with
  | [] => return body
  | redirects => return .redirected line body redirects

/-- The commands that a bar joins to others. -/
def bars : (fuel : Nat) → Scanner (List Statement)
  | 0 => fail "nested too deeply"
  | fuel + 1 => do
    if ← accept inner "|" then
      lineEnds inner
      let next ← inner .single
      return next :: (← bars fuel)
    else return []

/-- A command or several with bars between them, maybe negated. -/
def pipeline : Scanner Statement := do
  let negated ← accept inner "!"
  let first ← inner .single
  let body := match ← bars inner (← enough) with
    | [] => first
    | rest => .pipeline (first :: rest)
  return if negated then .negated body else body

/-- The pipelines that are joined to a first one by `&&` and `||`. -/
def joined : (fuel : Nat) → Statement → Scanner Statement
  | 0, _ => fail "nested too deeply"
  | fuel + 1, first => do
    if ← accept inner "&&" then
      lineEnds inner
      joined fuel (.both first (← pipeline inner))
    else if ← accept inner "||" then
      lineEnds inner
      joined fuel (.either first (← pipeline inner))
    else return first

/-- The words and marks that end a list of commands. -/
def closing : List String :=
  ["then", "else", "elif", "fi", "do", "done", "esac", "\x7d", ")", ";;"]

/-- The rest of a list of commands, after those that were read. -/
def listRest (extent : Extent) : (fuel : Nat) → (closable : Bool) → Statement → Scanner Statement
  | 0, _, _ => fail "nested too deeply"
  | fuel + 1, closable, before => do
    if extent ≠ .line then lineEnds inner
    let token ← peek inner
    match token, mark? token with
    | .ending, _ => return before
    | _, some "\n" =>
      advance
      return before
    | _, mark =>
      if closable ∧ extent ≠ .line ∧ mark.any closing.contains then return before
      let first ← joined inner (← enough) (← pipeline inner)
      let token ← peek inner
      match token, mark? token with
      | _, some "&" =>
        advance
        listRest extent fuel true (before.followedBy (.background first))
      | _, some ";" =>
        advance
        listRest extent fuel true (before.followedBy first)
      | .ending, _ => return before.followedBy first
      | _, some "\n" => listRest extent fuel true (before.followedBy first)
      | _, _ =>
        if extent = .line then unexpected token none
        else return before.followedBy first

end Grammar

/-- Reads commands. -/
def commands : (fuel : Nat) → Inner
  | 0, _ => fail "nested too deeply"
  | fuel + 1, .single => Grammar.command (commands fuel)
  | fuel + 1, extent => do
    Grammar.listRest (commands fuel) extent (← Grammar.enough) (extent = .optional) .nothing

/-- Reads the next line of a script with commands that belong to it, unless the script is at its
end; gives back what is left of the script as well. -/
def readLine? (c : Cursor) : Except SyntaxError (Option (Statement × Cursor)) := do
  let fuel := c.rest.length + 2
  let (token, c) ← (peekToken (commands fuel .optional)).run c
  match token with
  | .ending => return none
  | _ => return some (← (commands fuel .line).run c)

end WasmBindings.Shell
