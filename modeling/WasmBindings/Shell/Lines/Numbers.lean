import WasmBindings.Shell.Lines.Parts

/-!
# Numbers in a row

The program that shows the numbers from one to another, and the decimal numbers for it.
-/

namespace WasmBindings.Shell.Lines

/-- The options of `seq`. -/
def enumerating : Usage :=
  { program := "seq", flags := "w", valued := "sf", strict := true
    long := [("separator", 's'), ("equal-width", 'w'), ("format", 'f')] }

/-- A decimal number as a whole number of units, and how many decimals it has. -/
def decimal? (text : String) : Option (Int × Nat) :=
  let (negative, body) := match text.toList with
    | '-' :: rest => (true, rest)
    | '+' :: rest => (false, rest)
    | rest => (false, rest)
  let whole := body.takeWhile Char.isDigit
  let rest := body.drop whole.length
  let decimals? := match rest with
    | [] => some []
    | '.' :: ds => if ds.all Char.isDigit then some ds else none
    | _ => none
  match decimals? with
  | none => none
  | some decimals =>
    if whole.isEmpty ∧ decimals.isEmpty then none
    else
      let n : Int := valueOfDigits 10 (whole ++ decimals)
      some (if negative then -n else n, decimals.length)

/-- Some power of ten. -/
def tens (n : Nat) : Nat := (List.replicate n 10).foldl (· * ·) 1

/-- The text of a number of units with so many decimals. -/
def decimalText (decimals : Nat) (n : Int) : String :=
  let digits := toString n.natAbs
  let digits := String.ofList (List.replicate (decimals + 1 - digits.length) '0') ++ digits
  let whole := String.ofList (digits.toList.take (digits.length - decimals))
  let fraction := String.ofList (digits.toList.drop (digits.length - decimals))
  (if n < 0 then "-" else "") ++ whole ++ (if decimals = 0 then "" else "." ++ fraction)

/-- Shows the numbers from one to another. -/
def seq : Program := fun words s =>
  let front := words.takeWhile fun w =>
    match w.toList with
    | '-' :: c :: _ => !(c.isDigit || c = '.')
    | _ => false
  let words := if front.length < words.length ∧ !front.isEmpty ∧ front.getLast? ≠ some "-s" ∧
      front.getLast? ≠ some "-f" then front ++ "--" :: words.drop front.length
    else if front.isEmpty then "--" :: words
    else words
  enumerating.run (fun settings operands s =>
    let u := enumerating
    match operands.find? fun w => (decimal? w).isNone with
    | some bad => u.refuse s s!"invalid floating point argument: '{bad}'"
    | none =>
      let number (w : String) : Int × Nat := (decimal? w).getD (0, 0)
      let bounds? : Option ((Int × Nat) × (Int × Nat) × (Int × Nat)) := match operands with
        | [last] => some ((1, 0), (1, 0), number last)
        | [first, last] => some (number first, (1, 0), number last)
        | [first, step, last] => some (number first, number step, number last)
        | _ => none
      match bounds?, operands with
      | none, [] => u.refuse s "missing operand"
      | none, operands => u.refuse s ("extra operand '" ++ (operands[3]?.getD "") ++ s!"'")
      | some ((first, p), (step, q), (last, r)), _ =>
        let decimals := max p q
        let scale := max decimals r
        let unit (n : Int) (places : Nat) : Int := n * tens (scale - places)
        let (a, d, b) := (unit first p, unit step q, unit last r)
        if d = 0 then
          u.refuse s ("invalid Zero increment value: '" ++ (operands[1]?.getD "") ++ "'")
        else
          let count := if 0 < d then (if b < a then 0 else ((b - a) / d).toNat + 1)
            else (if a < b then 0 else ((a - b) / (-d)).toNat + 1)
          let values := (List.range (min count 1000000)).map fun n : Nat => a + d * (n : Int)
          let texts := values.map fun v => decimalText decimals (v / tens (scale - decimals))
          let width := (texts.map String.length).foldl max 0
          let texts := if given settings "w" then texts.map fun t =>
              let zeros := String.ofList (List.replicate (width - t.length) '0')
              match t.toList with
              | '-' :: rest => "-" ++ zeros ++ String.ofList rest
              | _ => zeros ++ t
            else texts
          let texts := match valueOf? settings 'f' with
            | none => texts
            | some format => texts.map (layOut format.toList)
          let joint := (valueOf? settings 's').getD "\n"
          if texts.isEmpty then s else s.emitText (joint.intercalate texts ++ "\n")) words s
where
  /-- A number in a format such as `%03g`. -/
  layOut (format : List Char) (text : String) : String :=
    let front := format.takeWhile (· ≠ '%')
    let body := (format.drop front.length).drop 1
    let zero := body.head? = some '0'
    let digits := body.takeWhile Char.isDigit
    let rest := body.drop digits.length
    let (precision, rest) := match rest with
      | '.' :: rest => (some (leadingNumber rest).1, (leadingNumber rest).2)
      | _ => (none, rest)
    let text := match precision, rest.head? with
      | some p, some 'f' =>
        let (n, places) := (decimal? text).getD (0, 0)
        if places ≤ p then decimalText p (n * tens (p - places)) else text
      | none, some 'f' =>
        let (n, places) := (decimal? text).getD (0, 0)
        if places ≤ 6 then decimalText 6 (n * tens (6 - places)) else text
      | _, _ => text
    let fill := List.replicate (valueOfDigits 10 digits - text.length) (if zero then '0' else ' ')
    String.ofList (front ++ fill ++ text.toList ++ rest.drop 1)

end WasmBindings.Shell.Lines
