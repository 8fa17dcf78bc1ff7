/-!
# Scanning a document

A scanner takes characters off the front of a text, or fails. The tokens here are those of TOML:
blanks, line ends, comments, strings, keys, numbers, dates and times. Control characters other than
the tab stand nowhere but in line ends, which are a line feed with or without a carriage return in
front.
-/

namespace WasmBindings.Toml

/-- A scanner: what it makes of the front of a text, and what is left. -/
abbrev Scan := StateT (List Char) Option

namespace Scan

/-- The next character, which stays. -/
def peek? : Scan (Option Char) := return (← get).head?

/-- Whether the text goes on with some characters, which stay. -/
def looksAt (token : List Char) : Scan Bool := return token.isPrefixOf (← get)

/-- The next character, which has to satisfy a test. -/
def charIf (test : Char → Bool) : Scan Char := fun s =>
  match s with
  | c :: rest => if test c then some (c, rest) else none
  | [] => none

/-- A given character. -/
def char (c : Char) : Scan Unit := do
  let _ ← charIf (· == c)

/-- Given characters in a row. -/
def token (cs : List Char) : Scan Unit := cs.forM char

/-- The longest row of characters that satisfy a test. -/
def takeWhile (test : Char → Bool) : Scan (List Char) := fun s =>
  some (s.takeWhile test, s.dropWhile test)

/-- A row of exactly `count` characters that satisfy a test. -/
def exactly (count : Nat) (test : Char → Bool) : Scan (List Char) := fun s =>
  let front := s.take count
  if front.length = count ∧ front.all test then some (front, s.drop count) else none

/-- What a scanner makes of the text, or nothing if it fails. -/
def optional (p : Scan α) : Scan (Option α) := fun s =>
  match p s with
  | some (a, rest) => some (some a, rest)
  | none => some (none, s)

/-- Scans again and again until the scanner fails or takes nothing. -/
def many (p : Scan α) : Scan (List α) := fun s => some (go s.length s)
where
  go : Nat → List Char → List α × List Char
    | 0, s => ([], s)
    | fuel + 1, s =>
      match p s with
      | some (a, rest) =>
        if rest.length < s.length then
          let (items, rest) := go fuel rest
          (a :: items, rest)
        else ([], s)
      | none => ([], s)

/-- Fails unless a condition holds. -/
def check (p : Prop) [Decidable p] : Scan Unit := fun s => if p then some ((), s) else none

/-! ## Blanks and line ends -/

/-- The blanks inside a line. -/
def isBlank (c : Char) : Bool := c == ' ' || c == '\t'

/-- The characters that may stand in a line. -/
def isPrintable (c : Char) : Bool := c == '\t' || (0x20 ≤ c.toNat && c.toNat ≠ 0x7f)

/-- Blanks. -/
def blanks : Scan Unit := do
  let _ ← takeWhile isBlank

/-- A line end. -/
def newline : Scan Unit := token ['\r', '\n'] <|> char '\n'

/-- A comment, up to the line end. -/
def comment : Scan Unit := do
  char '#'
  let _ ← takeWhile isPrintable

/-- The end of a line that has been read: blanks, maybe a comment, and a line end or the end of the
text. -/
def lineEnd : Scan Unit := do
  blanks
  let _ ← optional comment
  match ← peek? with
  | none => return ()
  | some _ => newline

/-- Blanks, comments and line ends. -/
def gap : Scan Unit := do
  let _ ← many do
    blanks
    let _ ← optional comment
    newline
  blanks

/-! ## Strings -/

/-- The value of a hexadecimal digit. -/
def hexValue (c : Char) : Nat :=
  if c.isDigit then c.toNat - '0'.toNat
  else if 'a' ≤ c then c.toNat - 'a'.toNat + 10
  else c.toNat - 'A'.toNat + 10

/-- Whether a character is a hexadecimal digit. -/
def isHexDigit (c : Char) : Bool :=
  c.isDigit || ('a' ≤ c && c ≤ 'f') || ('A' ≤ c && c ≤ 'F')

/-- A character by its number, in `count` hexadecimal digits. -/
def scalar (count : Nat) : Scan Char := do
  let digits ← exactly count isHexDigit
  let n := digits.foldl (fun n c => 16 * n + hexValue c) 0
  check n.isValidChar
  return Char.ofNat n

/-- The character that an escape stands for, after the backslash. -/
def escape : Scan Char := do
  match ← charIf fun _ => true with
  | 'b' => return '\x08'
  | 't' => return '\t'
  | 'n' => return '\n'
  | 'f' => return '\x0c'
  | 'r' => return '\r'
  | '"' => return '"'
  | '\\' => return '\\'
  | 'u' => scalar 4
  | 'U' => scalar 8
  | _ => failure

/-- A string on one line, with escapes. -/
def basicString : Scan String := do
  char '"'
  let cs ← many do
    let c ← charIf fun c => isPrintable c && c != '"'
    if c = '\\' then escape else return c
  char '"'
  return String.ofList cs

/-- A string on one line, without escapes. -/
def literalString : Scan String := do
  char '\''
  let cs ← takeWhile fun c => isPrintable c && c != '\''
  char '\''
  return String.ofList cs

/-- The quotes that end a string over several lines: three close it, and up to two more in front of
those belong to it. -/
def closing (quote : Char) : Scan (List Char) := do
  let row ← takeWhile (· == quote)
  check (3 ≤ row.length ∧ row.length ≤ 5)
  return row.drop 3

/-- One or two quotes inside a string over several lines. -/
def innerQuotes (quote : Char) : Scan (List Char) := do
  let row ← takeWhile (· == quote)
  check (1 ≤ row.length ∧ row.length ≤ 2)
  return row

/-- A backslash at the end of a line, which takes away all blanks and line ends that follow. -/
def continuation : Scan (List Char) := do
  char '\\'
  blanks
  newline
  let _ ← many (blanks *> newline)
  blanks
  return []

/-- The content of a string over several lines, up to the closing quotes. A line end in it is a line
feed. -/
def multiline (quote : Char) (item : Scan (List Char)) : Scan String := do
  token [quote, quote, quote]
  let _ ← optional newline
  let parts ← many (innerQuotes quote <|> (newline *> pure ['\n']) <|> item)
  let last ← closing quote
  return String.ofList (parts.flatten ++ last)

/-- A string over several lines, with escapes. -/
def multilineBasic : Scan String :=
  multiline '"' <| continuation <|> do
    let c ← charIf fun c => isPrintable c && c != '"'
    if c = '\\' then return [← escape] else return [c]

/-- A string over several lines, without escapes. -/
def multilineLiteral : Scan String :=
  multiline '\'' do return [← charIf fun c => isPrintable c && c != '\'']

/-- A string of any of the four kinds. -/
def string : Scan String := do
  if ← looksAt ['"', '"', '"'] then multilineBasic
  else if ← looksAt ['\'', '\'', '\''] then multilineLiteral
  else if ← looksAt ['"'] then basicString
  else literalString

/-! ## Keys -/

/-- The characters of a key without quotes. -/
def isKeyChar (c : Char) : Bool := c.isAlphanum || c == '-' || c == '_'

/-- One part of a key. -/
def simpleKey : Scan String := do
  match ← peek? with
  | some '"' => basicString
  | some '\'' => literalString
  | _ =>
    let cs ← takeWhile isKeyChar
    check (cs ≠ [])
    return String.ofList cs

/-- How deep keys and values may nest: fewer than this many levels. -/
def depthLimit : Nat := 80

/-- A key: parts with dots between them, and blanks anywhere around. -/
def key : Scan (List String) := do
  blanks
  let first ← simpleKey
  blanks
  let rest ← many do
    char '.'
    blanks
    let part ← simpleKey
    blanks
    return part
  check (rest.length + 1 < depthLimit)
  return first :: rest

/-! ## Numbers -/

/-- Digits, of which each but the first may have an underscore in front. -/
def digits (test : Char → Bool) : Scan (List Char) := do
  let first ← charIf test
  let rest ← many do
    let _ ← optional (char '_')
    charIf test
  return first :: rest

/-- A sign, if there is one: whether it is a minus. -/
def sign : Scan Bool := do
  match ← optional (charIf fun c => c == '+' || c == '-') with
  | some '-' => return true
  | _ => return false

/-- The value of a row of digits. -/
def valueOf (base : Nat) (digits : List Char) : Nat :=
  digits.foldl (fun n c => base * n + hexValue c) 0

/-- Decimal digits without a zero in front. -/
def decimalDigits : Scan (List Char) := do
  match ← peek? with
  | some '0' =>
    char '0'
    return ['0']
  | _ => digits Char.isDigit

/-- The bound of integers of 64 bits: those of either sign below it, and its negative, are in
range. -/
def integerBound : Nat := 1 <<< 63

/-- A number with a base, after its two-character mark. -/
def based (mark : List Char) (base : Nat) (test : Char → Bool) : Scan Int := do
  token mark
  let n := valueOf base (← digits test)
  check (n < integerBound)
  return n

/-- An integer of 64 bits. -/
def integer : Scan Int := do
  if ← looksAt ['0', 'x'] then based ['0', 'x'] 16 isHexDigit
  else if ← looksAt ['0', 'o'] then based ['0', 'o'] 8 fun c => '0' ≤ c && c ≤ '7'
  else if ← looksAt ['0', 'b'] then based ['0', 'b'] 2 fun c => c == '0' || c == '1'
  else
    let negative ← sign
    let n := valueOf 10 (← decimalDigits)
    check (if negative then n ≤ integerBound else n < integerBound)
    return if negative then -n else n

/-- The part of a number after the point. -/
def fraction : Scan (List Char) := do
  char '.'
  digits Char.isDigit

/-- A power of ten. -/
def exponent : Scan Int := do
  let _ ← charIf fun c => c == 'e' || c == 'E'
  let negative ← sign
  let n := valueOf 10 (← digits Char.isDigit)
  return if negative then -n else n

/-- The least whole number that is nearer to infinity than to any number of 64 bits: half a step
above the greatest of these, 2^1024 - 2^971. -/
def infinityBound : Nat := 1 <<< 1024 - 1 <<< 970

/-- Whether a decimal number is nearer to infinity than to any number of 64 bits. The bound is a
whole number, so the whole part decides. -/
def overflows (mantissa : List Char) (exponent : Int) : Bool :=
  let significant := mantissa.dropWhile (· == '0')
  let magnitude := (significant.length : Int) + exponent
  if significant.isEmpty || magnitude ≤ 308 then false
  else if magnitude > 309 then true
  else
    let whole := (significant ++ List.replicate exponent.toNat '0').take magnitude.toNat
    valueOf 10 whole ≥ infinityBound

/-- A number with a fraction or a power of ten. A positive one has to be finite. -/
def decimalFloat : Scan Unit := do
  let negative ← sign
  let whole ← decimalDigits
  match ← peek? with
  | some '.' =>
    let part ← fraction
    let power ← optional exponent
    check (negative || !overflows (whole ++ part) (power.getD 0 - part.length))
  | _ =>
    let power ← exponent
    check (negative || !overflows whole power)

/-- A number that is no integer, infinity and the like included. -/
def float : Scan Unit :=
  decimalFloat <|> do
    let _ ← sign
    token ['i', 'n', 'f'] <|> token ['n', 'a', 'n']

/-! ## Dates and times -/

/-- A number of so many digits, in a range. -/
def field (count low high : Nat) : Scan Nat := do
  let n := valueOf 10 (← exactly count Char.isDigit)
  check (low ≤ n ∧ n ≤ high)
  return n

/-- The number of days of a month. -/
def daysIn (year month : Nat) : Nat :=
  if month = 2 then
    if year % 4 = 0 ∧ (year % 100 ≠ 0 ∨ year % 400 = 0) then 29 else 28
  else if month = 4 ∨ month = 6 ∨ month = 9 ∨ month = 11 then 30
  else 31

/-- A date. -/
def date : Scan Unit := do
  let year ← field 4 0 9999
  char '-'
  let month ← field 2 1 12
  char '-'
  let _ ← field 2 1 (daysIn year month)

/-- A time of day; a minute may have a leap second. -/
def time : Scan Unit := do
  let _ ← field 2 0 23
  char ':'
  let _ ← field 2 0 59
  char ':'
  let _ ← field 2 0 60
  let _ ← optional do
    char '.'
    check ((← takeWhile Char.isDigit) ≠ [])

/-- The distance from universal time. -/
def zone : Scan Unit := do
  match ← charIf fun c => c == 'Z' || c == 'z' || c == '+' || c == '-' with
  | '+' | '-' =>
    let _ ← field 2 0 23
    char ':'
    let _ ← field 2 0 59
  | _ => return ()

/-- A date, a time, or both. -/
def dateTime : Scan Unit :=
  (do
    date
    let _ ← optional do
      let _ ← charIf fun c => c == 'T' || c == 't' || c == ' '
      time
      optional zone) <|> time

end Scan

end WasmBindings.Toml
