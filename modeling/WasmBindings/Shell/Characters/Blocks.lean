import WasmBindings.Shell.Characters.Dump
import WasmBindings.Text.Base64

/-!
# Blocks of bytes

Programs that copy bytes in blocks, divide them over files, and write them as text.
-/

namespace WasmBindings.Shell.Characters

open Lines (emitChars)

/-! ## Text -/

/-- The options of `base64`. -/
def encoding : Usage :=
  { program := "base64", flags := "di", valued := "w"
    long := [("decode", 'd'), ("wrap", 'w'), ("ignore-garbage", 'i')] }

/-- The bytes that groups of four digits stand for, and whether all of them were well-formed. -/
def base64Bytes : List Char → Bytes × Bool
  | [] => ([], true)
  | a :: b :: c :: d :: rest =>
    match Base64.value? a, Base64.value? b, Base64.value? c, Base64.value? d with
    | some a, some b, some c, some d =>
      let n := ((a * 64 + b) * 64 + c) * 64 + d
      let (more, ok) := base64Bytes rest
      ([UInt8.ofNat (n / 65536), UInt8.ofNat (n / 256 % 256), UInt8.ofNat (n % 256)] ++ more, ok)
    | some a, some b, some c, none =>
      let n := (a * 64 + b) * 64 + c
      ([UInt8.ofNat (n / 1024), UInt8.ofNat (n / 4 % 256)], d = '=' && rest.isEmpty)
    | some a, some b, none, _ =>
      ([UInt8.ofNat ((a * 64 + b) / 16)], c = '=' && d = '=' && rest.isEmpty)
    | _, _, _, _ => ([], false)
  | a :: b :: c :: [] =>
    match Base64.value? a, Base64.value? b, Base64.value? c with
    | some a, some b, some c =>
      let n := (a * 64 + b) * 64 + c
      ([UInt8.ofNat (n / 1024), UInt8.ofNat (n / 4 % 256)], false)
    | _, _, _ => ([], false)
  | a :: b :: [] =>
    match Base64.value? a, Base64.value? b with
    | some a, some b => ([UInt8.ofNat ((a * 64 + b) / 16)], false)
    | _, _ => ([], false)
  | [_] => ([], false)

/-- Writes bytes as text of sixty-four characters, or reads them back. -/
def base64 : Program := encoding.run fun settings operands s =>
  let path := operands.head?.getD "-"
  match readOperand s path with
  | (.error e, s) => encoding.report s s!"{path}: {e.reason}"
  | (.ok bytes, s) =>
    if given settings "d" then
      let text := (charsOf bytes).filter fun c =>
        c ≠ '\n' && (!given settings "i" || (Base64.value? c).isSome || c = '=')
      let (bytes, ok) := base64Bytes text
      let s := s.emit bytes
      if ok then s else s.complain "base64: invalid input" 1
    else
      let width := ((valueOf? settings 'w').bind String.toNat?).getD 76
      let text := Base64.encode bytes
      if width = 0 then emitChars s text
      else
        let lines := blocksOf width (text.length + 1) (bytesOf text)
        lines.foldl (fun s line => s.emit (line ++ [0x0a])) s

/-! ## Blocks -/

/-- The settings of a copy of blocks. -/
structure Blocks where
  source : Option String := none
  target : Option String := none
  size : Nat := 512
  count : Option Nat := none
  skip : Nat := 0
  seek : Nat := 0
  conversions : List String := []
  quiet : Bool := false

/-- A number with units, of which several may be multiplied. -/
def blockNumber? (text : String) : Option Nat :=
  ((splitAt 'x' text.toList).mapM fun piece => do
    let c ← Lines.count? (String.ofList piece)
    if c.sign.isSome then none else some c.number).map fun (ns : List Nat) => ns.foldl (· * ·) 1

/-- Takes a setting of a copy of blocks into account. -/
def Blocks.add (b : Blocks) (word : String) : Except String Blocks :=
  let name := String.ofList (word.toList.takeWhile (· ≠ '='))
  let value := String.ofList ((word.toList.dropWhile (· ≠ '=')).drop 1)
  let number (set : Nat → Blocks) : Except String Blocks :=
    match blockNumber? value with
    | some n => .ok (set n)
    | none => .error s!"invalid number: '{value}'"
  match name with
  | "if" => .ok { b with source := some value }
  | "of" => .ok { b with target := some value }
  | "bs" | "ibs" | "obs" => number fun n => { b with size := n }
  | "count" => number fun n => { b with count := some n }
  | "skip" | "iseek" => number fun n => { b with skip := n }
  | "seek" | "oseek" => number fun n => { b with seek := n }
  | "conv" => .ok { b with conversions := b.conversions ++
      (splitAt ',' value.toList).map String.ofList }
  | "status" => .ok { b with quiet := value = "none" }
  | "iflag" | "oflag" | "cbs" => .ok b
  | _ => .error s!"unrecognized operand '{word}'\nTry 'dd --help' for more information."

/-- Copies blocks of bytes. -/
def dd : Program := fun words s =>
  match words.foldlM Blocks.add ({} : Blocks) with
  | .error text => s.complain s!"dd: {text}" 1
  | .ok b =>
    match readOperand s (b.source.getD "-") with
    | (.error e, s) =>
      s.complain ("dd: failed to open '" ++ (b.source.getD "") ++ s!"': {e.reason}") 1
    | (.ok bytes, s) =>
      let bytes := bytes.drop (b.skip * b.size)
      let bytes := match b.count with
        | some n => bytes.take (n * b.size)
        | none => bytes
      let change (c : Char) : Char :=
        if b.conversions.contains "ucase" then c.toUpper
        else if b.conversions.contains "lcase" then c.toLower
        else c
      let bytes := bytesOf ((charsOf bytes).map change)
      let written : Except State State := match b.target with
        | none => .ok (s.emit bytes)
        | some path =>
          let before := (s.readFile path).toOption.getD []
          let start := b.seek * b.size
          let front := before.take start ++ List.replicate (start - before.length) 0
          let rest := if b.conversions.contains "notrunc" then before.drop (start + bytes.length)
            else []
          match writePath s path (front ++ bytes ++ rest) with
          | .ok s => .ok s
          | .error e => .error (s.complain s!"dd: failed to open '{path}': {e.reason}" 1)
      match written with
      | .error s => s
      | .ok s =>
        if b.quiet then s.done 0
        else
          let full := bytes.length / max 1 b.size
          let part := if bytes.length % max 1 b.size = 0 then 0 else 1
          let plural := if bytes.length = 1 then "byte" else "bytes"
          s.complain (s!"{full}+{part} records in\n{full}+{part} records out\n" ++
            s!"{bytes.length} {plural} copied, 0 s, 0 B/s") 0

/-- The options of `split`. -/
def splitting : Usage := { program := "split", flags := "dx", valued := "abln" }

/-- The endings of the names of the pieces of a file. -/
def pieceEnding (numeric : Bool) (width n : Nat) : String :=
  if numeric then inDigits 10 width n
  else
    let letter (n : Nat) : Char := Char.ofNat (97 + n % 26)
    String.ofList ((List.range width).reverse.map fun k =>
      letter (n / ((List.replicate k 26).foldl (· * ·) 1)))

/-- Cuts a file into pieces, which are files. -/
def split : Program := splitting.run fun settings operands s =>
  let path := operands.head?.getD "-"
  match readOperand s path with
  | (.error e, s) => splitting.report s s!"cannot open '{path}' for reading: {e.reason}"
  | (.ok bytes, s) =>
    let front := operands[1]?.getD "x"
    let width := ((valueOf? settings 'a').bind String.toNat?).getD 2
    let lineCount := ((valueOf? settings 'l').bind String.toNat?).getD 1000
    let pieces := match (valueOf? settings 'b').bind Lines.count? with
      | some n => blocksOf (max 1 n.number) (bytes.length + 1) bytes
      | none =>
        let lines := piecesOf '\n' (charsOf bytes)
        (List.range ((lines.length + lineCount - 1) / max 1 lineCount)).map fun n =>
          bytesOf ((lines.drop (n * lineCount)).take lineCount).flatten
    pieces.zipIdx.foldl (fun s (piece, n) =>
      let target := front ++ pieceEnding (given settings "d") width n
      match writePath s target piece with
      | .ok s => s
      | .error e => splitting.report s s!"{target}: {e.reason}") s

/-- How many lines are written at most where there is no end of them. -/
def lineLimit : Nat := 4096

/-- Writes a line again and again. -/
def yes : Program := fun words s =>
  let line := (if words.isEmpty then "y" else " ".intercalate words) ++ "\n"
  (s.emit ((List.replicate lineLimit (Octet.toBytes line)).flatten)).done 0

end WasmBindings.Shell.Characters
