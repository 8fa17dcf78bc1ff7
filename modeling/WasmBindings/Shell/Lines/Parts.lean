import WasmBindings.Shell.Arithmetic
import WasmBindings.Shell.Program

/-!
# Parts of files

Programs that show files or their beginnings and ends, and count what is in them.
-/

namespace WasmBindings.Shell.Lines

/-- Writes characters to the output. -/
def emitChars (s : State) (text : List Char) : State := s.emit (bytesOf text)

/-- A number and what follows it. -/
def leadingNumber (text : List Char) : Nat × List Char :=
  let digits := text.takeWhile Char.isDigit
  (valueOfDigits 10 digits, text.drop digits.length)

/-! ## Showing -/

/-- The options of `cat`. -/
def showing : Usage :=
  { program := "cat", flags := "unbsETAvet"
    long := [("number", 'n'), ("show-all", 'A'), ("squeeze-blank", 's'), ("show-ends", 'E'),
      ("show-tabs", 'T'), ("number-nonblank", 'b'), ("show-nonprinting", 'v')] }

/-- A character in a form that can be seen. -/
def visible (c : Char) : List Char :=
  let low (n : Nat) : List Char :=
    if n < 32 then ['^', Char.ofNat (n + 64)]
    else if n = 127 then ['^', '?']
    else [Char.ofNat n]
  let n := c.toNat
  if n = 9 ∨ n = 10 then [c]
  else if 128 ≤ n then ['M', '-'] ++ low (n - 128)
  else low n

/-- Lines with numbers in front. -/
def numbered (skipBlank : Bool) : (next : Nat) → List (List Char) → List (List Char)
  | _, [] => []
  | next, line :: rest =>
    if skipBlank ∧ line = ['\n'] then line :: numbered skipBlank next rest
    else
      ((padFront 6 (toString next)).toList ++ '\t' :: line) :: numbered skipBlank (next + 1) rest

/-- Lines of which no two empty ones follow each other. -/
def squeezed : (afterBlank : Bool) → List (List Char) → List (List Char)
  | _, [] => []
  | afterBlank, line :: rest =>
    let blank := line = ['\n']
    if afterBlank ∧ blank then squeezed true rest else line :: squeezed blank rest

/-- A text as the options say. -/
def shown (settings : List Setting) (bytes : Bytes) : Bytes :=
  if settings.isEmpty then bytes
  else
    let lines := piecesOf '\n' (charsOf bytes)
    let lines := if given settings "s" then squeezed false lines else lines
    let dress (line : List Char) : List Char := line.flatMap fun c =>
      if c = '\t' ∧ given settings "TAt" then ['^', 'I']
      else if c = '\n' ∧ given settings "EAe" then ['$', '\n']
      else if given settings "vAet" then visible c
      else [c]
    let lines := lines.map dress
    let lines :=
      if given settings "b" then numbered true 1 lines
      else if given settings "n" then numbered false 1 lines
      else lines
    bytesOf lines.flatten

/-- Shows files one after the other. -/
def cat : Program := showing.run fun settings operands s =>
  let settings := settings.filter (·.letter ≠ 'u')
  if settings.isEmpty then eachInput showing operands (fun s _ bytes => s.emit bytes) s
  else
    let (bytes, s) := allInput showing operands s
    s.emit (shown settings bytes)

/-! ## Beginnings and ends -/

/-- A count, maybe with a sign and a unit. -/
structure Count where
  sign : Option Char := none
  number : Nat
  deriving Repr

/-- Reads a count. -/
def count? (text : String) : Option Count :=
  let (sign, body) := match text.toList with
    | '-' :: rest => (some '-', rest)
    | '+' :: rest => (some '+', rest)
    | rest => (none, rest)
  let digits := body.takeWhile Char.isDigit
  let unit? := match String.ofList (body.drop digits.length) with
    | "" => some 1
    | "b" => some 512
    | "k" | "K" | "KiB" => some 1024
    | "kB" | "KB" => some 1000
    | "M" | "MiB" => some 1048576
    | _ => none
  match digits, unit? with
  | _ :: _, some unit => some ⟨sign, valueOfDigits 10 digits * unit⟩
  | _, _ => none

/-- Arguments of which a first one such as `-5` or `+5` is read as a number of lines. -/
def withLineCount (plus : Bool) : List String → List String
  | word :: rest =>
    match word.toList with
    | '-' :: d :: ds =>
      if d.isDigit then
        let digits := (d :: ds).takeWhile Char.isDigit
        let unit := (d :: ds).drop digits.length
        if unit = ['c'] then "-c" :: String.ofList digits :: rest
        else if unit.isEmpty then "-n" :: String.ofList digits :: rest
        else word :: rest
      else word :: rest
    | '+' :: d :: _ => if plus ∧ d.isDigit then "-n" :: word :: rest else word :: rest
    | _ => word :: rest
  | [] => []

/-- Acts on each input with a title above it if there are several. -/
def titled (u : Usage) (settings : List Setting) (operands : List String)
    (act : State → Bytes → State) (s : State) : State :=
  let wanted := given settings "v" || (1 < operands.length && !given settings "q")
  (eachOperand (if operands.isEmpty then ["-"] else operands) (fun (s : State) path =>
    match readOperand s path with
    | (.ok bytes, s) =>
      let isFirst := s.optionLetter = 0
      let title := if path = "-" then "standard input" else path
      let s := if wanted then
          s.emitText ((if isFirst then "" else "\n") ++ s!"==> {title} <==\n")
        else s
      { act s bytes with optionLetter := 1 }
    | (.error .isADirectory, s) =>
      u.report s ("error reading '" ++ path ++ "': " ++ IoError.isADirectory.reason)
    | (.error e, s) =>
      u.report s ("cannot open '" ++ path ++ "' for reading: " ++ e.reason))
    { s with optionLetter := 0 })

/-- How much is asked for, and whether that is counted in bytes. -/
def amount? (settings : List Setting) : Except String (Bool × Count) :=
  let (letter, value) :=
    match (settings.filter fun o => o.letter = 'c' ∨ o.letter = 'n').getLast? with
    | some o => (o.letter, o.value)
    | none => ('n', "10")
  match count? value with
  | some count => .ok (letter = 'c', count)
  | none =>
    let what := if letter = 'c' then "bytes" else "lines"
    .error s!"invalid number of {what}: '{value}'"

/-- A part of some bytes, counted in bytes or lines. -/
def partOf (settings : List Setting) (take : {α : Type} → Count → List α → List α)
    (ofBytes : Bool) (count : Count) (bytes : Bytes) : Bytes :=
  let mark := if given settings "z" then '\x00' else '\n'
  if ofBytes then take count bytes
  else bytesOf (take count (piecesOf mark (charsOf bytes))).flatten

/-- Shows a part of each input. -/
def showParts (u : Usage) (settings : List Setting)
    (take : {α : Type} → Count → List α → List α) (operands : List String) (s : State) : State :=
  match amount? settings with
  | .error text => u.report s text
  | .ok (ofBytes, count) =>
    titled u settings operands
      (fun s bytes => s.emit (partOf settings take ofBytes count bytes)) s

/-- The options of `head`. -/
def beginning : Usage :=
  { program := "head", flags := "qvz", valued := "nc"
    long := [("lines", 'n'), ("bytes", 'c'), ("quiet", 'q'), ("verbose", 'v')] }

/-- The first few items or, with a minus, all but the last few. -/
def headPart {α : Type} (count : Count) (items : List α) : List α :=
  if count.sign = some '-' then items.take (items.length - count.number)
  else items.take count.number

/-- Shows the beginning of files. What is not used of a file that is the input stays to be read. -/
def head : Program := fun words s =>
  beginning.run (fun settings operands s =>
    let after := showParts beginning settings headPart operands s
    match amount? settings, operands, s.channelOf? 0 with
    | .ok (ofBytes, count), [], some (index, .file place position atEnd) =>
      let used := (partOf settings headPart ofBytes count (s.available 0)).length
      { after with
        channels := after.channels.setIfInBounds index (.file place (position + used) atEnd) }
    | _, _, _ => after) (withLineCount false words) s

/-- The options of `tail`. -/
def ending : Usage :=
  { program := "tail", flags := "qvzfF", valued := "nc"
    long := [("lines", 'n'), ("bytes", 'c'), ("quiet", 'q'), ("verbose", 'v')] }

/-- The last few items or, with a plus, those from a given one on. -/
def tailPart {α : Type} (count : Count) (items : List α) : List α :=
  if count.sign = some '+' then items.drop (count.number - 1)
  else items.drop (items.length - count.number)

/-- Shows the end of files. -/
def tail : Program := fun words s =>
  ending.run (fun settings operands => showParts ending settings tailPart operands)
    (withLineCount true words) s

/-! ## Counting -/

/-- The options of `wc`. -/
def counting : Usage :=
  { program := "wc", flags := "clmwL"
    long := [("bytes", 'c'), ("chars", 'm'), ("lines", 'l'), ("words", 'w')] }

/-- The number of words in a text. -/
def wordCount (text : List Char) : Nat :=
  let blank (c : Char) : Bool := [' ', '\t', '\n', '\x0b', '\x0c', '\r'].contains c
  ((List.zip (' ' :: text) text).filter fun (before, c) => blank before && !blank c).length

/-- The counts that the options ask for, in their fixed order. -/
def countsOf (settings : List Setting) (bytes : Bytes) : List Nat :=
  let text := charsOf bytes
  let wants (letters : String) : Bool := settings.isEmpty || given settings letters
  (if wants "l" then [bytes.count 0x0a] else []) ++
    (if wants "w" then [wordCount text] else []) ++
    (if given settings "m" then [bytes.length] else []) ++
    (if wants "c" then [bytes.length] else []) ++
    (if given settings "L" then [((linesOf text).map List.length).foldl max 0] else [])

/-- Counts lines, words and bytes. -/
def wc : Program := counting.run fun settings operands s =>
  let columns := (countsOf settings []).length
  let paths := if operands.isEmpty then ["-"] else operands
  let size? (path : String) : Option Nat :=
    if path = "-" then if s.inputIsFile then some (s.available 0).length else none
    else
      match s.node path with
      | .ok (.file contents _) => some contents.length
      | .ok _ => none
      | .error _ => some 0
  let width :=
    if columns = 1 ∧ paths.length = 1 then 1
    else
      let total := (toString ((paths.filterMap size?).foldl (· + ·) 0)).length
      if paths.all fun path => (size? path).isSome then total else max 7 total
  let line (counts : List Nat) (name : String) : String :=
    " ".intercalate (counts.map fun n => padFront width (toString n)) ++
      if name.isEmpty then "" else " " ++ name
  let zero := countsOf settings []
  let (totals, s) := paths.foldl (fun (totals, s) path =>
    let name := if operands.isEmpty then "" else path
    match readOperand s path with
    | (.ok bytes, s) =>
      let counts := countsOf settings bytes
      (List.zipWith (· + ·) totals counts, s.emitLine (line counts name))
    | (.error e, s) =>
      let status := 1
      let s := if e = .isADirectory then s.emitLine (line zero name) else s
      (totals, s.complain s!"wc: {path}: {e.reason}" status)) (zero, s)
  if 1 < paths.length then s.emitLine (line totals "total") else s

end WasmBindings.Shell.Lines
