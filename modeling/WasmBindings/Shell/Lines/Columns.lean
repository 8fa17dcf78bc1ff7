import WasmBindings.Shell.Lines.Parts

/-!
# Columns

Programs that take columns out of lines, and put lines side by side.
-/

namespace WasmBindings.Shell.Lines

/-! ## Cutting -/

/-- The options of `cut`. -/
def cutting : Usage :=
  { program := "cut", flags := "snz\x01", valued := "bcfd\x02"
    long := [("delimiter", 'd'), ("fields", 'f'), ("bytes", 'b'), ("characters", 'c'),
      ("only-delimited", 's'), ("complement", '\x01'), ("output-delimiter", '\x02')] }

/-- Reads a row of ranges; an open end is none. -/
def ranges? (text : String) : Except String (List (Nat × Option Nat)) :=
  (splitAt ',' text.toList).mapM fun piece =>
    let number? (digits : List Char) : Option Nat :=
      if !digits.isEmpty ∧ digits.all Char.isDigit then some (valueOfDigits 10 digits) else none
    let bad : Except String (Nat × Option Nat) :=
      .error s!"invalid field value '{String.ofList piece}'"
    match splitAt '-' piece with
    | [one] =>
      match number? one with
      | some n => if n = 0 then .error "fields are numbered from 1" else .ok (n, some n)
      | none => bad
    | [[], []] => .error "invalid range with no endpoint: -"
    | [first, last] =>
      match (if first.isEmpty then some 1 else number? first), last.isEmpty, number? last with
      | some 0, _, _ => .error "fields are numbered from 1"
      | some n, true, _ => .ok (n, none)
      | some n, false, some m =>
        if m < n then .error "invalid decreasing range" else .ok (n, some m)
      | _, _, _ => bad
    | _ => bad

/-- Whether a number from one on is in some ranges. -/
def isIn (ranges : List (Nat × Option Nat)) (n : Nat) : Bool :=
  ranges.any fun (first, last?) => first ≤ n && last?.all (n ≤ ·)

/-- The items whose numbers are chosen. -/
def chosen {α : Type} (keep : Nat → Bool) (items : List α) : List α :=
  (items.zipIdx.filter fun (_, n) => keep (n + 1)).map (·.1)

/-- Shows parts of lines. -/
def cut : Program := cutting.run fun settings operands s =>
  let lists := settings.filter fun o => o.letter = 'b' ∨ o.letter = 'c' ∨ o.letter = 'f'
  match lists with
  | [] => cutting.refuse s "you must specify a list of bytes, characters, or fields"
  | _ :: _ :: _ => cutting.refuse s "only one list may be specified"
  | [list] =>
    let isField := list.letter = 'f'
    let delimiter := (valueOf? settings 'd').getD "\t"
    match ranges? list.value with
    | .error text =>
      cutting.refuse s (if isField then text
        else text.replace "fields are" "byte/character positions are"
          |>.replace "field value" "byte/character position")
    | .ok ranges =>
      if 1 < delimiter.length then cutting.refuse s "the delimiter must be a single character"
      else
        let mark := delimiter.toList.head?.getD '\x00'
        let joint := ((valueOf? settings '\x02').getD (mark.toString)).toList
        let keep (n : Nat) : Bool := isIn ranges n != given settings "\x01"
        let show? (line : List Char) : Option (List Char) :=
          if isField then
            let fields := splitAt mark line
            if fields.length = 1 then if given settings "s" then none else some line
            else some (joint.intercalate (chosen keep fields))
          else some (chosen keep line)
        eachInput cutting operands (fun s _ bytes =>
          emitChars s (unlines ((linesOf (charsOf bytes)).filterMap show?))) s

/-! ## Pasting -/

/-- The options of `paste`. -/
def pasting : Usage :=
  { program := "paste", flags := "sz", valued := "d"
    long := [("delimiters", 'd'), ("serial", 's')] }

/-- Items with marks between them, which are used in turn. -/
def interleave (marks : List Char) (items : List (List Char)) : List Char :=
  (items.zipIdx.map fun (item, n) =>
    if n = 0 then item
    else
      match marks[(n - 1) % max 1 marks.length]? with
      | some mark => mark :: item
      | none => item).flatten

/-- Rows made of one item of each list. -/
def rowsOf (fuel : Nat) (columns : List (List (List Char))) : List (List (List Char)) :=
  match fuel with
  | 0 => []
  | fuel + 1 =>
    if columns.all List.isEmpty then []
    else columns.map (fun c => c.head?.getD []) :: rowsOf fuel (columns.map (List.drop 1))

/-- A text with the usual escapes replaced. -/
def withEscapes : (fuel : Nat) → List Char → List Char
  | 0, text => text
  | _, [] => []
  | fuel + 1, '\\' :: rest =>
    let (front, rest) := escapeIn rest
    front ++ withEscapes fuel rest
  | fuel + 1, c :: rest => c :: withEscapes fuel rest

/-- Joins the lines of files side by side, or all lines of each file. -/
def paste : Program := pasting.run fun settings operands s =>
  let text := ((valueOf? settings 'd').getD "\t").toList
  let marks := withEscapes (text.length + 1) text
  let operands := if operands.isEmpty then ["-"] else operands
  let shares := (operands.filter (· = "-")).length
  let (columns, s) := operands.foldl (fun (columns, (s : State)) path =>
    match readOperand s path with
    | (.ok bytes, s) => (columns ++ [linesOf (charsOf bytes)], s)
    | (.error e, s) => (columns ++ [[]], pasting.report s s!"{path}: {e.reason}")) ([], s)
  if s.status ≠ 0 then s
  else if given settings "s" then emitChars s (unlines (columns.map (interleave marks)))
  else
    let input := ((operands.zip columns).findSome? fun (path, c) =>
      if path = "-" ∧ !c.isEmpty then some c else none).getD []
    let dealt := (operands.zip columns).foldl (fun (done, n) (path, c) =>
      if path = "-" ∧ 1 < shares then
        (done ++ [chosen (fun m => (m - 1) % shares = n) input], n + 1)
      else (done ++ [c], n)) (([] : List (List (List Char))), 0)
    let most := (dealt.1.map List.length).foldl max 0
    emitChars s (unlines ((rowsOf most dealt.1).map (interleave marks)))

end WasmBindings.Shell.Lines
