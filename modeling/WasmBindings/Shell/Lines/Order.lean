import WasmBindings.Shell.Lines.Parts

/-!
# Order

Programs that sort lines, and find out which ones are the same.
-/

namespace WasmBindings.Shell.Lines

/-! ## Sorting -/

/-- The options of `sort`. -/
def sorting : Usage :=
  { program := "sort", flags := "bdfghinrsuVcCmzM", valued := "ktoST", status := 2
    long := [("reverse", 'r'), ("numeric-sort", 'n'), ("unique", 'u'), ("key", 'k'),
      ("field-separator", 't'), ("output", 'o'), ("ignore-case", 'f'), ("stable", 's'),
      ("check", 'c'), ("version-sort", 'V'), ("zero-terminated", 'z')] }

/-- A key: where it begins and ends, as fields and characters, and how it is compared. -/
structure Key where
  field : Nat
  character : Nat
  lastField : Option Nat := none
  lastCharacter : Nat := 0
  letters : List Char
  deriving Repr

/-- A position such as `2.3` with letters after it, and what follows. -/
def keyPosition (text : List Char) : Nat × Nat × List Char × List Char :=
  let (field, rest) := leadingNumber text
  let (character, rest) := match rest with
    | '.' :: rest => leadingNumber rest
    | _ => (0, rest)
  let letters := rest.takeWhile Char.isAlpha
  (field, character, letters, rest.drop letters.length)

/-- Reads a key. -/
def Key.read (text : String) : Key :=
  let (field, character, letters, rest) := keyPosition text.toList
  match rest with
  | ',' :: rest =>
    let (lastField, lastCharacter, more, _) := keyPosition rest
    ⟨field, max character 1, some lastField, lastCharacter, letters ++ more⟩
  | _ => ⟨field, max character 1, none, 0, letters⟩

/-- The fields of a line: cut at a mark, or each with the blanks in front of it. -/
def sortFields (mark? : Option Char) (line : List Char) : List (List Char) :=
  let blank (c : Char) : Bool := c = ' ' || c = '\t'
  match mark? with
  | some mark => splitAt mark line
  | none =>
    (line.foldl (fun (fields, before) c =>
      match fields with
      | field :: rest =>
        if blank c ∧ !blank before ∧ !field.isEmpty then ([c] :: field :: rest, c)
        else ((field ++ [c]) :: rest, c)
      | [] => ([[c]], c)) (([[]] : List (List Char)), 'x')).1.reverse

/-- The part of a line that a key means. -/
def Key.text (key : Key) (mark? : Option Char) (line : List Char) : List Char :=
  let blank (c : Char) : Bool := c = ' ' || c = '\t'
  let fields := sortFields mark? line
  let joint : List Char := match mark? with
    | some mark => [mark]
    | none => []
  let skip (text : List Char) : List Char :=
    if key.letters.contains 'b' then text.dropWhile blank else text
  let front := fields.drop (key.field - 1)
  let whole := match key.lastField with
    | none => front
    | some last => front.take (last + 1 - key.field)
  match whole, key.lastField with
  | [], _ => []
  | first :: rest, some last =>
    let pieces := (skip first).drop (key.character - 1) :: rest
    if key.lastCharacter = 0 then joint.intercalate pieces
    else if last = key.field then
      ((skip first).take key.lastCharacter).drop (key.character - 1)
    else joint.intercalate (pieces.dropLast ++
      [((pieces.getLast?.getD []).take key.lastCharacter)])
  | first :: rest, none => joint.intercalate ((skip first).drop (key.character - 1) :: rest)

/-- A number at the front of a text: its sign, digits and decimals. -/
def decimalOf (text : List Char) : Bool × List Char × List Char :=
  let body := text.dropWhile fun c => c = ' ' || c = '\t'
  let (negative, body) := match body with
    | '-' :: rest => (true, rest)
    | _ => (false, body)
  let whole := body.takeWhile Char.isDigit
  let decimals := match body.drop whole.length with
    | '.' :: rest => rest.takeWhile Char.isDigit
    | _ => []
  (negative, whole, decimals)

/-- The value of a number at the front of a text, in units of the twentieth decimal. -/
def decimalValue (text : List Char) : Int :=
  let (negative, whole, decimals) := decimalOf text
  let digits := whole ++ (decimals ++ List.replicate 20 '0').take 20
  let n : Int := valueOfDigits 10 digits
  if negative then -n else n

/-- The value of a number with a unit of size after it. -/
def sizeValue (text : List Char) : Int × Int :=
  let (_, whole, decimals) := decimalOf text
  let body := text.dropWhile fun c => c = ' ' || c = '-' || c = '\t'
  let rest := body.drop (whole.length + if decimals.isEmpty then 0 else decimals.length + 1)
  let value := decimalValue text
  let unit : Int := match rest.head? with
    | some 'K' | some 'k' => 1
    | some 'M' => 2
    | some 'G' => 3
    | some 'T' => 4
    | _ => 0
  (if value < 0 then -unit else unit, value)

/-- A text cut into runs of digits and of others, digits as numbers. -/
def versionRuns : (fuel : Nat) → List Char → List (List Char × Nat)
  | 0, _ | _, [] => []
  | fuel + 1, text =>
    let front := text.takeWhile fun c => !c.isDigit
    let rest := text.drop front.length
    let (n, rest) := leadingNumber rest
    (front, n) :: versionRuns fuel rest

/-- The order of two versions. -/
def compareVersions : List (List Char × Nat) → List (List Char × Nat) → Ordering
  | [], [] => .eq
  | [], _ => .lt
  | _, [] => .gt
  | (a, m) :: as, (b, n) :: bs =>
    if a = b then if m = n then compareVersions as bs else if m < n then .lt else .gt
    else if Octet.precedes a b then .lt else .gt

/-- The order of two texts. -/
def compareTexts (a b : List Char) : Ordering :=
  if a = b then .eq else if Octet.precedes a b then .lt else .gt

/-- The order of two numbers. -/
def compareInts (a b : Int) : Ordering := if a = b then .eq else if a < b then .lt else .gt

/-- The order of two texts as some letters say, without turning it round. -/
def compareBy (letters : List Char) (a b : List Char) : Ordering :=
  let trim (text : List Char) : List Char :=
    if letters.contains 'b' then text.dropWhile fun c => c = ' ' || c = '\t' else text
  let only (text : List Char) : List Char :=
    if letters.contains 'd' then text.filter fun c => c.isAlphanum || c = ' ' || c = '\t'
    else text
  let fold (text : List Char) : List Char :=
    if letters.contains 'f' then text.map Char.toUpper else text
  if letters.contains 'n' ∨ letters.contains 'g' then compareInts (decimalValue a) (decimalValue b)
  else if letters.contains 'h' then
    let (unitA, valueA) := sizeValue a
    let (unitB, valueB) := sizeValue b
    if unitA = unitB then compareInts valueA valueB else compareInts unitA unitB
  else if letters.contains 'V' then
    compareVersions (versionRuns (a.length + 1) a) (versionRuns (b.length + 1) b)
  else compareTexts (fold (only (trim a))) (fold (only (trim b)))

/-- An order turned round. -/
def reversed (o : Ordering) : Ordering :=
  match o with
  | .lt => .gt
  | .gt => .lt
  | .eq => .eq

/-- The order of two lines by keys, each of which takes over the letters of the whole if it has none
of its own. -/
def compareKeys (letters : List Char) (mark? : Option Char) (keys : List Key) (a b : List Char) :
    Ordering :=
  match keys with
  | [] => .eq
  | key :: rest =>
    let own := if key.letters.isEmpty then letters else key.letters
    let key := { key with letters := own }
    let o := compareBy own (key.text mark? a) (key.text mark? b)
    match if own.contains 'r' then reversed o else o with
    | .eq => compareKeys letters mark? rest a b
    | o => o

/-- Sorted lines of which no two neighbours are the same. -/
def distinct (same : List Char → List Char → Bool) : List (List Char) → List (List Char)
  | [] => []
  | line :: rest =>
    match distinct same rest with
    | [] => [line]
    | next :: others => if same line next then line :: others else line :: next :: others

/-- Sorts lines. -/
def sort : Program := sorting.run fun settings operands s =>
  let letters := (settings.filter (·.value = "")).map (·.letter)
  let mark? := (valueOf? settings 't').bind (·.toList.head?)
  let keys := (settings.filter (·.letter = 'k')).map fun o => Key.read o.value
  let keys := if keys.isEmpty then [⟨1, 1, none, 0, letters⟩] else keys
  let lineMark := if given settings "z" then '\x00' else '\n'
  let missing? := operands.find? fun path => path ≠ "-" ∧ (s.readFile path).toOption.isNone
  match missing? with
  | some path =>
    let e := match s.readFile path with
      | .error e => e
      | .ok _ => .notFound
    let text := if e = .isADirectory then "read failed" else "cannot read"
    s.complain s!"sort: {text}: {path}: {e.reason}" 2
  | none =>
    let (bytes, s) := allInput sorting operands s
    let lines := (piecesOf lineMark (charsOf bytes)).map fun line =>
      if line.getLast? = some lineMark then line.dropLast else line
    let keyed := compareKeys letters mark? keys
    let whole (a b : List Char) : Ordering :=
      match keyed a b with
      | .eq =>
        if given settings "su" then .eq
        else if letters.contains 'r' then reversed (compareTexts a b) else compareTexts a b
      | o => o
    if given settings "cC" then
      let pairs := (List.zip lines (lines.drop 1)).zipIdx
      match pairs.find? fun ((a, b), _) => whole a b = .gt with
      | some ((_, b), n) =>
        if given settings "C" then s.done 1
        else
          s.complain ("sort: " ++ (operands.head?.getD "-") ++
            s!":{n + 2}: disorder: {String.ofList b}") 1
      | none => s.done 0
    else
      let sorted := lines.mergeSort fun a b => whole a b != .gt
      let sorted := if given settings "u" then distinct (fun a b => keyed a b == .eq) sorted
        else sorted
      let bytes := bytesOf (sorted.flatMap (· ++ [lineMark]))
      match valueOf? settings 'o' with
      | none => s.emit bytes
      | some path =>
        match writePath s path bytes with
        | .ok s => s.done 0
        | .error e => s.complain s!"sort: open failed: {path}: {e.reason}" 2

/-- The options of `uniq`. -/
def distinguishing : Usage :=
  { program := "uniq", flags := "cdDuiz", valued := "fsw"
    long := [("count", 'c'), ("repeated", 'd'), ("unique", 'u'), ("ignore-case", 'i')] }

/-- Runs of lines that are the same. -/
def runs (same : List Char → List Char → Bool) : List (List Char) → List (List (List Char))
  | [] => []
  | line :: rest =>
    match runs same rest with
    | (next :: others) :: more =>
      if same line next then (line :: next :: others) :: more
      else [line] :: (next :: others) :: more
    | more => [line] :: more

/-- Shows lines that follow each other only once. -/
def uniq : Program := distinguishing.run fun settings operands s =>
  let number (letter : Char) : Nat := ((valueOf? settings letter).bind String.toNat?).getD 0
  let blank (c : Char) : Bool := c = ' ' || c = '\t'
  let field (text : List Char) : List Char :=
    (text.dropWhile blank).dropWhile fun c => !blank c
  let part (line : List Char) : List Char :=
    let rest := ((List.range (number 'f')).foldl (fun text _ => field text) line).drop (number 's')
    let rest := match valueOf? settings 'w' with
      | some _ => rest.take (number 'w')
      | none => rest
    if given settings "i" then rest.map Char.toLower else rest
  match readOperand s (operands.head?.getD "-") with
  | (.error e, s) => distinguishing.report s ("" ++ (operands.head?.getD "-") ++ s!": {e.reason}")
  | (.ok bytes, s) =>
    let groups := runs (fun a b => part a = part b) (linesOf (charsOf bytes))
    let lines := groups.flatMap fun group =>
      let count := group.length
      if given settings "D" then if 1 < count then group else []
      else if (given settings "d" ∧ count = 1) ∨ (given settings "u" ∧ 1 < count) then []
      else
        let front := if given settings "c" then (padFront 7 (toString count) ++ " ").toList else []
        (group.take 1).map (front ++ ·)
    let bytes := bytesOf (unlines lines)
    match operands with
    | [_, target] =>
      match writePath s target bytes with
      | .ok s => s.done 0
      | .error e => distinguishing.report s s!"{target}: {e.reason}"
    | _ => s.emit bytes

/-! ## Sorted files -/

/-- The options of `comm`. -/
def intersecting : Usage := { program := "comm", flags := "123" }

/-- The lines of two sorted lists side by side: of the first, of the second, and of both. -/
def merged (a b : List (List Char)) : List (Nat × List Char) :=
  match a, b with
  | [], b => b.map (2, ·)
  | a, [] => a.map (1, ·)
  | x :: as, y :: bs =>
    if x = y then (3, x) :: merged as bs
    else if Octet.precedes x y then (1, x) :: merged as (y :: bs)
    else (2, y) :: merged (x :: as) bs
termination_by a.length + b.length

/-- Compares sorted files line by line. -/
def comm : Program := intersecting.run fun settings operands s =>
  match operands with
  | [first, second] =>
    match readOperand s first with
    | (.error e, s) => intersecting.report s s!"{first}: {e.reason}"
    | (.ok a, s) =>
      match readOperand s second with
      | (.error e, s) => intersecting.report s s!"{second}: {e.reason}"
      | (.ok b, s) =>
        let hidden (n : Nat) : Bool := given settings (toString n)
        let tabs (n : Nat) : List Char :=
          ((List.range n).filter fun m => 0 < m ∧ !hidden m).map fun _ => '\t'
        let rows := (merged (linesOf (charsOf a)) (linesOf (charsOf b))).filter fun (n, _) =>
          !hidden n
        emitChars s (unlines (rows.map fun (n, line) => tabs n ++ line))
  | [one] => intersecting.refuse s s!"missing operand after '{one}'"
  | [] => intersecting.refuse s "missing operand"
  | _ :: _ :: extra :: _ => intersecting.refuse s s!"extra operand '{extra}'"

end WasmBindings.Shell.Lines
