import WasmBindings.Shell.Program

/-!
# Comparison

The program that finds the first byte in which two files differ.
-/

namespace WasmBindings.Shell.Lines

/-- The options of `cmp`. -/
def comparing : Usage :=
  { program := "cmp", flags := "sbl", valued := "n", status := 2
    long := [("silent", 's'), ("quiet", 's'), ("verbose", 'l')] }

/-- The first position, from one on, at which two binaries differ. -/
def firstDifference? (a b : Bytes) : Option Nat :=
  ((List.zip a b).zipIdx.find? fun ((x, y), _) => x ≠ y).map fun (_, n) => n + 1

/-- Compares two files byte by byte. -/
def cmp : Program := comparing.run fun settings operands s =>
  let cannot (s : State) (path : String) (e : IoError) : State :=
    s.complain s!"cmp: {path}: {e.reason}" 2
  let usage (text : String) : State :=
    s.complain s!"cmp: {text}\ncmp: Try 'cmp --help' for more information." 2
  match operands with
  | [] => usage "missing operand after 'cmp'"
  | first :: rest =>
    let second := rest.head?.getD "-"
    match readOperand s first with
    | (.error e, s) => if given settings "s" then s.done 2 else cannot s first e
    | (.ok a, s) =>
      match readOperand s second with
      | (.error e, s) => if given settings "s" then s.done 2 else cannot s second e
      | (.ok b, s) =>
        let limit := (valueOf? settings 'n').bind String.toNat?
        let cutTo (bytes : Bytes) : Bytes := match limit with
          | some n => bytes.take n
          | none => bytes
        let (a, b) := (cutTo a, cutTo b)
        if a = b then s.done 0
        else if given settings "s" then s.done 1
        else
          let lineAt (n : Nat) : Nat := ((a.take n).count 0x0a) + 1
          let (shorter, size) := if a.length < b.length then (first, a.length)
            else (second, b.length)
          let eof (s : State) (withLine : Bool) : State :=
            if size = 0 then s.complain s!"cmp: EOF on {shorter} which is empty" 1
            else if withLine then
              s.complain s!"cmp: EOF on {shorter} after byte {size}, in line {lineAt size}" 1
            else s.complain s!"cmp: EOF on {shorter} after byte {size}" 1
          if given settings "l" then
            let octal (b : UInt8) : String := padFront 3 (String.ofList (Nat.toDigits 8 b.toNat))
            let s := ((List.zip a b).zipIdx.filter fun ((x, y), _) => x ≠ y).foldl
              (fun s ((x, y), n) => s.emitLine s!"{n + 1} {octal x} {octal y}") s
            if a.length = b.length then s.done 1 else eof s false
          else
            match firstDifference? a b with
            | some n =>
              (s.emitLine s!"{first} {second} differ: char {n}, line {lineAt (n - 1)}").done 1
            | none => eof s true

end WasmBindings.Shell.Lines
