import WasmBindings.Bytes

/-!
# The syntax of shell scripts

A script is made of commands, commands of words, and words of parts: text, parameters, the output of
other commands, and the values of arithmetic expressions. Words and commands hold each other, for a
command may stand inside a word.
-/

namespace WasmBindings.Shell

/-- What an expansion makes of the value of a parameter. With `orEmpty`, an empty value counts as
none. -/
inductive Modifier where
  | value
  | length
  | fallback (orEmpty : Bool)
  | assign (orEmpty : Bool)
  | require (orEmpty : Bool)
  | alternative (orEmpty : Bool)
  /-- Takes off what fits a pattern, at the front or at the end. -/
  | trim (atEnd longest : Bool)
  /-- Some of the characters, from an offset on. -/
  | slice
  /-- Puts a text in the place of what fits a pattern: once or everywhere, or only at the front
  (`false`) or the end (`true`). -/
  | replace (everywhere : Bool) (anchor : Option Bool)
  /-- Upper or lower case, for the first character or for all. -/
  | letterCase (upper all : Bool)
  /-- The value of the parameter that the value names. -/
  | indirect
  | invalid
  deriving DecidableEq, Repr, Inhabited

/-- What a redirection does with its target. -/
inductive RedirectKind where
  | read
  | write
  /-- Writes even to a file that is protected against it. -/
  | overwrite
  | append
  | readWrite
  | duplicate
  /-- The target is the text to be read. -/
  | text
  /-- Output and errors to one file. -/
  | writeBoth
  deriving DecidableEq, Repr, Inhabited

/-- A redirection of a stream. -/
structure Redirect (word : Type) where
  stream : Nat
  kind : RedirectKind
  target : word
  deriving Inhabited

/-- A variable that gets a value, or more text at the end of the value it has. -/
structure Assignment (word : Type) where
  name : List Char
  appends : Bool := false
  value : word
  deriving Inhabited

mutual

/-- A part of a word. What is not quoted may be cut into fields and stand for file names. -/
inductive Part where
  | literal (text : List Char) (quoted : Bool)
  | parameter (name : List Char) (modifier : Modifier) (operands : List (List Part))
      (quoted : Bool)
  /-- What a command prints. -/
  | output (command : Statement) (quoted : Bool)
  | arithmetic (expression : List Part) (quoted : Bool)

/-- A command. Those that report errors of their own know their line. -/
inductive Statement where
  | simple (line : Nat) (assignments : List (Assignment (List Part))) (words : List (List Part))
      (redirects : List (Redirect (List Part)))
  | sequence (commands : List Statement)
  | background (command : Statement)
  | both (first second : Statement)
  | either (first second : Statement)
  | negated (command : Statement)
  | pipeline (commands : List Statement)
  | condition (test yes no : Statement)
  | each (line : Nat) (name : List Char) (words : List (List Part)) (body : Statement)
  | choice (line : Nat) (subject : List Part) (branches : List (List (List Part) × Statement))
  | repeated (whileTrue : Bool) (test body : Statement)
  | subshell (line : Nat) (body : Statement)
  | redirected (line : Nat) (body : Statement) (redirects : List (Redirect (List Part)))
  | define (name : List Char) (body : Statement)
  /-- The value of an expression as a condition. -/
  | compute (line : Nat) (expression : List Part)
  /-- A condition of one to three words, which are not cut into fields. -/
  | question (line : Nat) (words : List (List Part))

end

instance : Inhabited Part := ⟨.literal [] false⟩

instance : Inhabited Statement := ⟨.sequence []⟩

/-- A word, before it is expanded. -/
abbrev Word := List Part

namespace Statement

/-- The command that does nothing. -/
def nothing : Statement := .sequence []

/-- One command after the other. -/
def followedBy : Statement → Statement → Statement
  | sequence first, sequence second => .sequence (first ++ second)
  | first, sequence second => .sequence (first :: second)
  | sequence first, second => .sequence (first ++ [second])
  | first, second => .sequence [first, second]

end Statement

/-- Which shell language a script is in: the plain one, or the one with more features. -/
inductive Dialect where
  | plain
  | extended
  deriving DecidableEq, Repr, Inhabited

/-- What is wrong with a script, and in which line. -/
structure SyntaxError where
  line : Nat
  text : String
  deriving DecidableEq, Repr, Inhabited

/-! ## Names -/

/-- The characters of a name. -/
def isNameChar (c : Char) : Bool := c.isAlphanum || c == '_'

/-- The characters that a name begins with. -/
def startsName (c : Char) : Bool := c.isAlpha || c == '_'

/-- Whether a text is a name. -/
def isName : List Char → Bool
  | [] => false
  | c :: rest => startsName c && rest.all isNameChar

/-- The parameters that are named by one special character. -/
def isSpecial (c : Char) : Bool := c.isDigit || ['@', '*', '#', '?', '$', '!', '-'].contains c

/-- The characters that end a word unless they are quoted. -/
def endsWord (c : Char) : Bool :=
  [' ', '\t', '\n', ';', '&', '|', '<', '>', '(', ')'].contains c

end WasmBindings.Shell
