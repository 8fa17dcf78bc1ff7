import WasmBindings.Shell.Lines.Parts

/-!
# The shape of lines

Programs that turn lines round, number and break them, and hand them on.
-/

namespace WasmBindings.Shell.Lines

/-- The options of `tac`. -/
def reversing : Usage := { program := "tac" }

/-- Shows lines in the opposite order. -/
def tac : Program := reversing.run fun _ operands s =>
  eachOperand (if operands.isEmpty then ["-"] else operands) (fun s path =>
    match readOperand s path with
    | (.ok bytes, s) => emitChars s (piecesOf '\n' (charsOf bytes)).reverse.flatten
    | (.error e, s) =>
      reversing.report s s!"failed to open '{path}' for reading: {e.reason}") s

/-- The options of `rev`. -/
def mirroring : Usage := { program := "rev" }

/-- Shows the characters of lines in the opposite order. -/
def rev : Program := mirroring.run fun _ operands s =>
  eachOperand (if operands.isEmpty then ["-"] else operands) (fun s path =>
    match readOperand s path with
    | (.ok bytes, s) =>
      emitChars s ((piecesOf '\n' (charsOf bytes)).flatMap fun line =>
        if line.getLast? = some '\n' then line.dropLast.reverse ++ ['\n'] else line.reverse)
    | (.error e, s) => mirroring.report s s!"cannot open {path}: {e.reason}") s

/-- The options of `nl`. -/
def numbering : Usage := { program := "nl", flags := "p", valued := "bdfhilnsvw" }

/-- Shows lines with numbers, which empty ones lack. -/
def nl : Program := numbering.run fun settings operands s =>
  let width := ((valueOf? settings 'w').bind String.toNat?).getD 6
  let joint := (valueOf? settings 's').getD "\t"
  let all := valueOf? settings 'b' = some "a"
  let first := ((valueOf? settings 'v').bind String.toNat?).getD 1
  let (bytes, s) := allInput numbering operands s
  let (text, _) := (linesOf (charsOf bytes)).foldl (fun (text, n) line =>
    if line.isEmpty ∧ !all then
      (text ++ List.replicate (width + joint.length) ' ' ++ ['\n'], n)
    else
      (text ++ (padFront width (toString n)).toList ++ joint.toList ++ line ++ ['\n'], n + 1))
    (([] : List Char), first)
  emitChars s text

/-- The options of `fold`. -/
def folding : Usage := { program := "fold", flags := "bs", valued := "w", long := [("width", 'w')] }

/-- A line in pieces of a width, which end in a blank if that is wanted and possible. -/
def folded (atBlanks : Bool) (width : Nat) : (fuel : Nat) → List Char → List Char
  | 0, line => line
  | fuel + 1, line =>
    if line.length ≤ width then line
    else
      let front := line.take width
      let kept := (front.reverse.dropWhile (· ≠ ' ')).reverse
      let front := if atBlanks ∧ !kept.isEmpty then kept else front
      front ++ '\n' :: folded atBlanks width fuel (line.drop (max 1 front.length))

/-- Breaks long lines. -/
def fold : Program := folding.run fun settings operands s =>
  let width := ((valueOf? settings 'w').bind String.toNat?).getD 80
  eachInput folding operands (fun s _ bytes =>
    emitChars s ((piecesOf '\n' (charsOf bytes)).flatMap fun line =>
      let body := if line.getLast? = some '\n' then line.dropLast else line
      folded (given settings "s") width (line.length + 1) body ++ line.drop body.length)) s

/-- The options of `expand`. -/
def widening : Usage := { program := "expand", flags := "i", valued := "t" }

/-- Puts blanks in the place of tabs. -/
def expand : Program := widening.run fun settings operands s =>
  let width := max 1 (((valueOf? settings 't').bind String.toNat?).getD 8)
  eachInput widening operands (fun s _ bytes =>
    emitChars s ((charsOf bytes).foldl (fun (text, column) c =>
      if c = '\t' then
        let blanks := width - column % width
        (text ++ List.replicate blanks ' ', column + blanks)
      else if c = '\n' then (text ++ [c], 0)
      else (text ++ [c], column + 1)) (([] : List Char), 0)).1) s

/-- The options of `tee`. -/
def branching : Usage :=
  { program := "tee", flags := "aip", long := [("append", 'a')] }

/-- Copies the input to the output and to files. -/
def tee : Program := branching.run fun settings operands s =>
  let (bytes, s) := s.readInput
  let s := s.emit bytes
  eachOperand operands (fun s path =>
    let before := if given settings "a" then (s.readFile path).toOption.getD [] else []
    match writePath s path (before ++ bytes) with
    | .ok s => s.done 0
    | .error e => branching.report s s!"{path}: {e.reason}") s

end WasmBindings.Shell.Lines
