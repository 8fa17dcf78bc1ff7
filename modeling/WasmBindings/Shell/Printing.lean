import WasmBindings.Shell.Lexer

/-!
# Printing with escapes and formats

What the commands `echo` and `printf` make of their arguments. Text comes out as characters that
stand for bytes.
-/

namespace WasmBindings.Shell.Printing

/-! ## Escapes -/

/-- Which escapes there are. -/
inductive Escapes where
  /-- In a format: octal digits follow the backslash. -/
  | format
  /-- In an argument: octal digits may follow a zero, and `\c` ends the text. -/
  | argument
  deriving DecidableEq, Repr

/-- What a backslash begins: characters, what follows, and whether the text ends here. -/
def escape (dialect : Dialect) (escapes : Escapes) (s : List Char) :
    List Char × List Char × Bool :=
  match s with
  | [] => (['\\'], [], false)
  | c :: rest =>
    if c = 'c' ∧ escapes = .argument then ([], [], true)
    else
      match letterEscape? c, c, dialect with
      | some plain, _, _ => ([plain], rest, false)
      | none, 'e', _ => (['\x1b'], rest, false)
      | none, 'x', .extended =>
        match (rest.take 2).takeWhile fun c => (Hex.value? c).isSome with
        | [] => (['\\', 'x'], rest, false)
        | digits => ([Char.ofNat (valueOfDigits 16 digits)], rest.drop digits.length, false)
      | none, _, _ =>
        let zero := escapes = .argument && c = '0' && (rest.head?.map isOctal).getD false
        let body := if zero then rest else c :: rest
        match (body.take 3).takeWhile isOctal with
        | [] => (['\\'], c :: rest, false)
        | digits =>
          ([Char.ofNat (valueOfDigits 8 digits % 256)], body.drop digits.length, false)

/-- A text with its escapes replaced, and whether it was ended early. The fuel bounds the number of
characters. -/
def unescape (dialect : Dialect) : (fuel : Nat) → List Char → List Char × Bool
  | 0, _ | _, [] => ([], false)
  | fuel + 1, '\\' :: rest =>
    let (front, rest, ends) := escape dialect .argument rest
    if ends then (front, true)
    else
      let (text, ends) := unescape dialect fuel rest
      (front ++ text, ends)
  | fuel + 1, c :: rest =>
    let (text, ends) := unescape dialect fuel rest
    (c :: text, ends)

/-! ## Numbers -/

/-- The digits of a number in a base, most significant first. -/
def digits (base n : Nat) : List Char := Nat.toDigits base n

/-- What an argument says about the number it should be. -/
inductive Complaint where
  | notNumeric (text : List Char)
  | trailing (text : List Char)
  | outOfRange (text : List Char)
  deriving DecidableEq, Repr

/-- The number that a text is, as far as it is one, and what is wrong with it. -/
def numberOf (signed : Bool) (text : List Char) : Int × Option Complaint :=
  match text with
  | [] => (0, none)
  | '\'' :: c :: _ | '"' :: c :: _ => (c.toNat, none)
  | _ =>
    let blank (c : Char) : Bool := [' ', '\t', '\n', '\x0b', '\x0c', '\r'].contains c
    let body := text.dropWhile blank
    let (negative, body) := match body with
      | '-' :: rest => (true, rest)
      | '+' :: rest => (false, rest)
      | _ => (false, body)
    let (base, ds) := match body with
      | '0' :: x :: c :: rest =>
        if (x = 'x' ∨ x = 'X') ∧ (Hex.value? c).isSome then (16, c :: rest) else (8, body)
      | '0' :: _ => (8, body)
      | _ => (10, body)
    let ds := ds.takeWhile fun c => (Hex.value? c).any (· < base)
    let rest := body.drop (ds.length + if base = 16 then 2 else 0)
    let n : Int := valueOfDigits base ds
    let n := if negative then -n else n
    if ds.isEmpty then (0, some (.notNumeric text))
    else if !rest.isEmpty then (n, some (.trailing text))
    else if signed ∧ 9223372036854775807 < n then
      (9223372036854775807, some (.outOfRange text))
    else if signed ∧ n < -9223372036854775808 then
      (-9223372036854775808, some (.outOfRange text))
    else if !signed ∧ 18446744073709551615 < n then
      (18446744073709551615, some (.outOfRange text))
    else (n, none)

/-! ## Formats -/

/-- How an argument is laid out. -/
structure Layout where
  left : Bool := false
  plus : Bool := false
  space : Bool := false
  zeros : Bool := false
  alternate : Bool := false
  width : Nat := 0
  precision : Option Nat := none
  deriving Repr

namespace Layout

/-- Fills a text up with blanks. -/
def fill (l : Layout) (text : List Char) : List Char :=
  let blanks := List.replicate (l.width - text.length) ' '
  if l.left then text ++ blanks else blanks ++ text

/-- A text, cut to the precision. -/
def text (l : Layout) (text : List Char) : List Char :=
  l.fill (match l.precision with
    | some n => text.take n
    | none => text)

/-- Digits with what stands in front of them. -/
def number (l : Layout) (sign digits : List Char) : List Char :=
  match l.precision with
  | some n => l.fill (sign ++ List.replicate (n - digits.length) '0' ++ digits)
  | none =>
    if l.zeros ∧ !l.left then
      sign ++ List.replicate (l.width - sign.length - digits.length) '0' ++ digits
    else l.fill (sign ++ digits)

/-- The digits of a number; zero has none if the precision says so. -/
def digitsOf (l : Layout) (base n : Nat) : List Char :=
  if n = 0 ∧ l.precision = some 0 then [] else digits base n

/-- A number with its sign. -/
def signed (l : Layout) (n : Int) : List Char :=
  let sign := if n < 0 then ['-'] else if l.plus then ['+'] else if l.space then [' '] else []
  l.number sign (l.digitsOf 10 n.natAbs)

/-- A number without a sign, in a base. -/
def unsigned (l : Layout) (letter : Char) (n : Nat) : List Char :=
  match letter with
  | 'o' =>
    let ds := l.digitsOf 8 n
    l.number [] (if l.alternate ∧ ds.head? ≠ some '0' then '0' :: ds else ds)
  | 'x' => l.number (if l.alternate ∧ n ≠ 0 then ['0', 'x'] else []) (l.digitsOf 16 n)
  | 'X' =>
    l.number (if l.alternate ∧ n ≠ 0 then ['0', 'X'] else [])
      ((l.digitsOf 16 n).map Char.toUpper)
  | _ => l.number [] (l.digitsOf 10 n)

end Layout

/-- What has been printed. -/
structure Printed where
  text : List Char := []
  complaints : List Complaint := []
  /-- Why printing had to stop. -/
  error : Option String := none
  /-- Whether an argument has asked for the end. -/
  ended : Bool := false
  deriving Repr

/-- Printing, with the arguments that are left. -/
abbrev Format := StateM (List String × Printed)

/-- Prints some characters. -/
def put (text : List Char) : Format Unit := modify fun (arguments, p) =>
  (arguments, { p with text := p.text ++ text })

/-- Takes the next argument. -/
def next? : Format (Option String) := do
  let (arguments, p) ← get
  set (arguments.drop 1, p)
  return arguments.head?

/-- Takes the next argument as a number. -/
def nextNumber (signed : Bool) : Format Int := do
  let (n, complaint) := numberOf signed ((← next?).getD "").toList
  modify fun (arguments, p) =>
    (arguments, { p with complaints := p.complaints ++ complaint.toList })
  return n

/-- Printing cannot go on. -/
def stop (error : String) : Format Unit := modify fun (arguments, p) =>
  (arguments, { p with error := some error })

/-- A layout from the flags, width and precision at the front of a text, and what follows them. A
star takes a number from the arguments. -/
def layout (s : List Char) : Format (Layout × List Char) := do
  let flags := s.takeWhile ['#', '-', '+', ' ', '0'].contains
  let s := s.drop flags.length
  let size (s : List Char) : Format (Int × List Char) := do
    match s with
    | '*' :: rest => return (← nextNumber true, rest)
    | _ =>
      let ds := s.takeWhile Char.isDigit
      return (valueOfDigits 10 ds, s.drop ds.length)
  let (width, s) ← size s
  let (precision, s) ← match s with
    | '.' :: rest =>
      let (n, rest) ← size rest
      pure (if n < 0 then none else some n.toNat, rest)
    | _ => pure (none, s)
  return ({
    left := flags.contains '-' || width < 0
    plus := flags.contains '+'
    space := flags.contains ' '
    zeros := flags.contains '0'
    alternate := flags.contains '#'
    width := width.natAbs
    precision }, s)

/-- A decimal number as a whole number of tenths, hundredths and so on, cut off. -/
def decimal (text : List Char) : Int × Nat :=
  let (negative, body) := match text with
    | '-' :: rest => (true, rest)
    | '+' :: rest => (false, rest)
    | _ => (false, text)
  let whole := body.takeWhile Char.isDigit
  let fraction := match body.drop whole.length with
    | '.' :: rest => rest.takeWhile Char.isDigit
    | _ => []
  let n : Int := valueOfDigits 10 (whole ++ fraction)
  (if negative then -n else n, fraction.length)

/-- Some power of ten. -/
def tens (n : Nat) : Nat := (List.replicate n 10).foldl (· * ·) 1

/-- A decimal number with a fixed number of places, rounded to the nearest. -/
def Layout.fixed (l : Layout) (text : List Char) : List Char :=
  let places := l.precision.getD 6
  let (n, scale) := decimal text
  let scaled := n.natAbs * tens places
  let unit := tens scale
  let rounded := (2 * scaled + unit) / (2 * unit)
  let fraction := digits 10 (rounded % tens places)
  let zeros := List.replicate (places - fraction.length) '0'
  let body := digits 10 (rounded / tens places) ++
    if places = 0 then [] else '.' :: (zeros ++ fraction)
  let sign := if n < 0 then ['-'] else if l.plus then ['+'] else if l.space then [' '] else []
  { l with precision := none }.number sign body

/-- Prints one argument as a letter says; `directive` is the text that asks for it. -/
def convert (dialect : Dialect) (l : Layout) (letter : Char) (directive : String) :
    Format Unit := do
  match letter with
  | 's' => put (l.text ((← next?).getD "").toList)
  | 'c' => put ({ l with precision := none }.text
      ((((← next?).getD "").toList.head?.getD '\x00') :: []))
  | 'b' =>
    let argument := ((← next?).getD "").toList
    let (text, ends) := unescape dialect (argument.length + 1) argument
    put (l.text text)
    if ends then modify fun (arguments, p) => (arguments, { p with ended := true })
  | 'd' | 'i' => put (l.signed (← nextNumber true))
  | 'o' | 'u' | 'x' | 'X' =>
    let n ← nextNumber false
    put (l.unsigned letter (n % 18446744073709551616).toNat)
  | 'f' | 'F' => put (l.fixed ((← next?).getD "").toList)
  | _ => stop (directive ++ ": invalid directive")

/-- Prints a format once. The fuel bounds the number of characters. -/
def once (dialect : Dialect) : (fuel : Nat) → List Char → Format Unit
  | 0, _ | _, [] => return
  | fuel + 1, '\\' :: rest => do
    let (front, rest, _) := escape dialect .format rest
    put front
    once dialect fuel rest
  | fuel + 1, '%' :: '%' :: rest => do
    put ['%']
    once dialect fuel rest
  | fuel + 1, '%' :: rest => do
    let (l, after) ← layout rest
    match after with
    | letter :: after =>
      let directive := String.ofList ('%' :: rest.take (rest.length - after.length))
      convert dialect l letter directive
      let (_, p) ← get
      if p.error.isNone ∧ !p.ended then once dialect fuel after
    | [] => stop "missing format character"
  | fuel + 1, c :: rest => do
    put [c]
    once dialect fuel rest

/-- Prints a format again and again as long as it takes arguments. -/
def print (dialect : Dialect) (format : List Char) : (fuel : Nat) → Format Unit
  | 0 => return
  | fuel + 1 => do
    let before := (← get).1.length
    once dialect (format.length + 1) format
    let (arguments, p) ← get
    if p.error.isNone ∧ !p.ended ∧ 0 < arguments.length ∧ arguments.length < before then
      print dialect format fuel

/-- What a format makes of some arguments. -/
def printf (dialect : Dialect) (format : String) (arguments : List String) : Printed :=
  ((print dialect format.toList (arguments.length + 1)).run (arguments, {})).2.2

/-- The wording of a complaint. -/
def Complaint.message : Complaint → String
  | .notNumeric text => String.ofList text ++ ": expected numeric value"
  | .trailing text => String.ofList text ++ ": not completely converted"
  | .outOfRange text => String.ofList text ++ ": Numerical result out of range"

/-! ## Echoing -/

/-- The options of an echo with more features, and the words after them. -/
def echoOptions : List String → (noEnd escapes : Bool) → Bool × Bool × List String
  | [], noEnd, escapes => (noEnd, escapes, [])
  | word :: rest, noEnd, escapes =>
    match word.toList with
    | '-' :: c :: letters =>
      let letters := c :: letters
      if letters.all ['n', 'e', 'E'].contains then
        let escapes := match (letters.filter (· ≠ 'n')).getLast? with
          | some 'e' => true
          | some _ => false
          | none => escapes
        echoOptions rest (noEnd || letters.contains 'n') escapes
      else (noEnd, escapes, word :: rest)
    | _ => (noEnd, escapes, word :: rest)

/-- What an echo makes of its arguments. In the plain dialect escapes are always replaced, and the
only option is to leave out the line end. -/
def echo (dialect : Dialect) (arguments : List String) : List Char :=
  let (noEnd, escapes, words) := match dialect, arguments with
    | .plain, "-n" :: rest => (true, true, rest)
    | .plain, words => (false, true, words)
    | .extended, words => echoOptions words false false
  let text := (" ".intercalate words).toList
  let (text, ends) := if escapes then unescape dialect (text.length + 1) text else (text, false)
  if noEnd ∨ ends then text else text ++ ['\n']

end WasmBindings.Shell.Printing
