import WasmBindings.Shell.Lines.Parts

/-!
# Showing bytes

The program that shows bytes as numbers or characters.
-/

namespace WasmBindings.Shell.Characters

/-- The options of `od`. -/
def dumping : Usage :=
  { program := "od", flags := "vabcdfilosxD", valued := "AtNjwS"
    long := [("address-radix", 'A'), ("format", 't'), ("read-bytes", 'N'), ("skip-bytes", 'j'),
      ("output-duplicates", 'v')] }

/-- How bytes are shown: as characters, or as numbers of some bytes in a base. -/
inductive DumpFormat where
  | characters
  | named
  | numbers (size base : Nat) (signed : Bool)
  deriving DecidableEq

/-- A way of showing bytes, and whether the text of them stands at the end of the line. -/
structure Dump where
  format : DumpFormat
  withText : Bool := false

/-- The ways that a type string asks for. The fuel bounds the number of characters. -/
def dumpTypes : (fuel : Nat) → List Char → Option (List Dump)
  | 0, _ | _, [] => some []
  | fuel + 1, c :: rest => do
    let digits := rest.takeWhile Char.isDigit
    let after := rest.drop digits.length
    let (size, after) := match digits, after with
      | [], 'C' :: after => (1, after)
      | [], 'S' :: after => (2, after)
      | [], 'I' :: after => (4, after)
      | [], 'L' :: after => (8, after)
      | [], after => (4, after)
      | ds, after => (valueOfDigits 10 ds, after)
    let withText := after.head? = some 'z'
    let after := if withText then after.drop 1 else after
    let format ← match c with
      | 'c' => some .characters
      | 'a' => some .named
      | 'x' => some (.numbers size 16 false)
      | 'o' => some (.numbers size 8 false)
      | 'u' => some (.numbers size 10 false)
      | 'd' => some (.numbers size 10 true)
      | _ => none
    return ⟨format, withText⟩ :: (← dumpTypes fuel after)

/-- The width of an item. -/
def DumpFormat.width : DumpFormat → Nat
  | characters | named => 3
  | numbers size 16 _ => 2 * size
  | numbers size 8 _ => (8 * size + 2) / 3
  | numbers size _ signed =>
    let width := match size with
      | 1 => 3
      | 2 => 5
      | 4 => 10
      | _ => 20
    if signed then width + 1 else width

/-- The number of bytes of an item. -/
def DumpFormat.size : DumpFormat → Nat
  | characters | named => 1
  | numbers size _ _ => max 1 size

/-- The number that some bytes are, the least one first. -/
def littleEndian (bytes : Bytes) : Nat :=
  bytes.foldr (fun b n => 256 * n + b.toNat) 0

/-- The names of the characters that cannot be seen. -/
def controlNames : List String :=
  ["nul", "soh", "stx", "etx", "eot", "enq", "ack", "bel", "bs", "ht", "nl", "vt", "ff", "cr", "so",
    "si", "dle", "dc1", "dc2", "dc3", "dc4", "nak", "syn", "etb", "can", "em", "sub", "esc", "fs",
    "gs", "rs", "us", "sp"]

/-- A number in some digits. -/
def inDigits (base width n : Nat) : String :=
  let digits := String.ofList (Nat.toDigits base n)
  String.ofList (List.replicate (width - digits.length) '0') ++ digits

/-- The text of an item. -/
def DumpFormat.item (format : DumpFormat) (bytes : Bytes) : String :=
  let b := (bytes.head?.getD 0).toNat
  match format with
  | .characters =>
    match b with
    | 0 => "\\0"
    | 7 => "\\a"
    | 8 => "\\b"
    | 9 => "\\t"
    | 10 => "\\n"
    | 11 => "\\v"
    | 12 => "\\f"
    | 13 => "\\r"
    | b => if 32 ≤ b ∧ b < 127 then String.singleton (Char.ofNat b) else inDigits 8 3 b
  | .named =>
    let b := b % 128
    if b = 127 then "del"
    else
      match controlNames[b]? with
      | some name => name
      | none => String.singleton (Char.ofNat b)
  | .numbers size base signed =>
    let n := littleEndian bytes
    let bits := 8 * size
    if base = 10 then
      if signed ∧ (1 <<< (bits - 1)) ≤ n then toString ((n : Int) - (1 <<< bits : Nat))
      else toString n
    else inDigits base format.width n

/-- Items of some bytes; the last one is filled up with zeros. The fuel bounds their number. -/
def itemsOf (size : Nat) : (fuel : Nat) → Bytes → List Bytes
  | 0, _ | _, [] => []
  | fuel + 1, bytes =>
    let item := bytes.take size
    (item ++ List.replicate (size - item.length) 0) :: itemsOf size fuel (bytes.drop size)

/-- How wide the items of a whole line are together. -/
def Dump.least (d : Dump) (perLine : Nat) : Nat :=
  (d.format.width + 1) * (perLine / d.format.size)

/-- A line for some bytes, without the address in front; the items of a whole line are so wide
together, and what they do not need is spread over them. -/
def Dump.line (d : Dump) (perLine total : Nat) (bytes : Bytes) : String :=
  let size := d.format.size
  let fields := perLine / size
  let spare := total - d.least perLine
  -- how much of the spare room is left after so many items
  let left (n : Nat) : Nat := spare * (fields - n) / fields
  let cells := (itemsOf size (bytes.length + 1) bytes).mapIdx fun n item =>
    padFront (left n - left (n + 1) + d.format.width + 1) (d.format.item item)
  let text := String.join cells
  if d.withText then
    let shown := (charsOf bytes).map fun c => if 32 ≤ c.toNat ∧ c.toNat < 127 then c else '.'
    text ++ String.ofList (List.replicate (total - text.length) ' ') ++ "  >" ++
      String.ofList shown ++ "<"
  else text

/-- The blocks of some bytes. The fuel bounds their number. -/
def blocksOf (size : Nat) : (fuel : Nat) → Bytes → List Bytes
  | 0, _ | _, [] => []
  | fuel + 1, bytes => bytes.take size :: blocksOf size fuel (bytes.drop size)

/-- The lines for some blocks, in which a star stands for blocks that repeat the one before. -/
def dumpLines (format : Nat → Bytes → List String) (all : Bool) (size : Nat) :
    (offset : Nat) → (before : Option Bytes) → (starred : Bool) → List Bytes → List String
  | _, _, _, [] => []
  | offset, before, starred, block :: rest =>
    if !all ∧ before = some block ∧ !rest.isEmpty then
      (if starred then [] else ["*"]) ++
        dumpLines format all size (offset + size) before true rest
    else
      format offset block ++
        dumpLines format all size (offset + block.length) (some block) false rest

/-- Shows bytes as numbers or characters. -/
def od : Program := dumping.run fun settings operands s =>
  let types := settings.flatMap fun o =>
    match o.letter with
    | 't' => [o.value]
    | 'a' => ["a"]
    | 'b' => ["o1"]
    | 'c' => ["c"]
    | 'd' => ["u2"]
    | 'o' => ["o2"]
    | 's' => ["d2"]
    | 'i' => ["dI"]
    | 'l' => ["dL"]
    | 'x' => ["x2"]
    | _ => []
  let types := if types.isEmpty then ["o2"] else types
  match types.mapM fun t => dumpTypes (t.length + 1) t.toList with
  | none => s.complain ("od: invalid type string '" ++ (types.head?.getD "") ++ s!"'") 1
  | some dumps =>
    let dumps := dumps.flatten
    let base? := match valueOf? settings 'A' with
      | some "n" => none
      | some "x" => some (16, 6)
      | some "d" => some (10, 7)
      | _ => some (8, 7)
    let address (n : Nat) : String := match base? with
      | some (base, width) => inDigits base width n
      | none => ""
    let perLine := ((valueOf? settings 'w').bind String.toNat?).getD 16
    let skip := ((valueOf? settings 'j').bind Lines.count?).elim 0 (·.number)
    let (bytes, s) := allInput dumping operands s
    let bytes := bytes.drop skip
    let bytes := match (valueOf? settings 'N').bind Lines.count? with
      | some n => bytes.take n.number
      | none => bytes
    let total := (dumps.map fun d => d.least perLine).foldl max 0
    let lines (offset : Nat) (block : Bytes) : List String :=
      dumps.zipIdx.map fun (d, n) =>
        (if n = 0 then address offset
          else String.ofList (List.replicate (address offset).length ' ')) ++
          d.line perLine total block
    let blocks := blocksOf perLine (bytes.length + 1) bytes
    let shown := dumpLines lines (given settings "v") perLine skip none false blocks
    let shown := if base?.isSome then shown ++ [address (skip + bytes.length)] else shown
    let before := s.status
    if bytes.isEmpty ∧ before ≠ 0 then s else (shown.foldl State.emitLine s).done before

end WasmBindings.Shell.Characters
