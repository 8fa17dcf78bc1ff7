import WasmBindings.Shell.State

/-!
# Programs

A program of the system takes arguments and acts on the state that it is started in: it reads and
writes streams and files, and leaves a status. Here is what programs have in common: options,
operands, inputs and lines.
-/

namespace WasmBindings.Shell

/-- A program of the system. -/
abbrev Program := List String → State → State

/-! ## Options -/

/-- An option that was given, and its value. -/
structure Setting where
  letter : Char
  value : String := ""
  deriving Repr

/-- The options that a program knows: letters without a value, letters with one, and long names for
some of them. -/
structure Usage where
  program : String
  flags : String := ""
  valued : String := ""
  /-- Letters that may have a value, in the same word. -/
  optional : String := ""
  long : List (String × Char) := []
  /-- The status in which the program ends if it is used wrongly. -/
  status : Nat := 1
  /-- Whether the first operand ends the options. -/
  strict : Bool := false
  /-- How the program is used, if it says so when it is used wrongly. -/
  synopsis : String := ""

namespace Usage

/-- Where a program says how it is used. -/
def hint (u : Usage) : String :=
  (if u.synopsis.isEmpty then "" else "\n" ++ u.synopsis) ++
    "\nTry '" ++ u.program ++ " --help' for more information."

/-- An error of a program that is used wrongly. -/
def wrong {α : Type} (u : Usage) (text : String) : Except String α :=
  .error (u.program ++ ": " ++ text ++ u.hint)

/-- Reads a cluster of letters; the value of a letter is the rest of the cluster, or the word after
it. -/
def cluster (u : Usage) : List Char → List String → Except String (List Setting × List String)
  | [], words => .ok ([], words)
  | c :: rest, words =>
    if u.flags.toList.contains c then do
      let (settings, words) ← u.cluster rest words
      return (⟨c, ""⟩ :: settings, words)
    else if u.optional.toList.contains c then .ok ([⟨c, String.ofList rest⟩], words)
    else if u.valued.toList.contains c then
      match rest, words with
      | [], word :: words => .ok ([⟨c, word⟩], words)
      | [], [] => u.wrong ("option requires an argument -- '" ++ c.toString ++ "'")
      | rest, words => .ok ([⟨c, String.ofList rest⟩], words)
    else u.wrong ("invalid option -- '" ++ c.toString ++ "'")

/-- Reads an option with a long name, which may be cut short. -/
def longOption (u : Usage) (text : List Char) (words : List String) :
    Except String (Setting × List String) :=
  let name := text.takeWhile (· ≠ '=')
  let value? := match text.drop name.length with
    | _ :: value => some (String.ofList value)
    | [] => none
  match u.long.find? fun (long, _) => name.isPrefixOf long.toList with
  | none => u.wrong ("unrecognized option '--" ++ String.ofList text ++ "'")
  | some (long, letter) =>
    if u.valued.toList.contains letter then
      match value?, words with
      | some value, words => .ok (⟨letter, value⟩, words)
      | none, word :: words => .ok (⟨letter, word⟩, words)
      | none, [] => u.wrong ("option '--" ++ long ++ "' requires an argument")
    else .ok (⟨letter, value?.getD ""⟩, words)

/-- Divides arguments into options and operands; two dashes end the options. The fuel bounds the
number of words. -/
def read (u : Usage) : (fuel : Nat) → List String → Except String (List Setting × List String)
  | 0, words => .ok ([], words)
  | _, [] => .ok ([], [])
  | fuel + 1, word :: words =>
    match word.toList with
    | ['-', '-'] => .ok ([], words)
    | '-' :: '-' :: text => do
      let (setting, words) ← u.longOption text words
      let (settings, operands) ← u.read fuel words
      return (setting :: settings, operands)
    | '-' :: c :: letters => do
      let (front, words) ← u.cluster (c :: letters) words
      let (settings, operands) ← u.read fuel words
      return (front ++ settings, operands)
    | _ =>
      if u.strict then .ok ([], word :: words)
      else do
        let (settings, operands) ← u.read fuel words
        return (settings, word :: operands)

/-- Whether arguments ask what the program is or how it is used. -/
def isQuestion (u : Usage) (words : List String) : Bool :=
  let options := words.takeWhile (· ≠ "--")
  let options := if u.strict then options.takeWhile (·.startsWith "-") else options
  options.contains "--help" || options.contains "--version"

/-- Runs a program on its options and operands, unless it is used wrongly. -/
def run (u : Usage) (act : List Setting → Program) : Program := fun words s =>
  if u.isQuestion words then s.done 0
  else
    match u.read (words.length + 1) words with
    | .ok (settings, operands) => act settings operands (s.done 0)
    | .error text => s.complain text u.status

/-- The program is used wrongly. -/
def refuse (u : Usage) (s : State) (text : String) : State :=
  s.complain (u.program ++ ": " ++ text ++ u.hint) u.status

/-- Something that a program was to do has failed. -/
def report (u : Usage) (s : State) (text : String) : State :=
  s.complain (u.program ++ ": " ++ text) 1

end Usage

/-- Whether one of some options was given. -/
def given (settings : List Setting) (letters : String) : Bool :=
  settings.any fun o => letters.toList.contains o.letter

/-- The value that was given last for an option. -/
def valueOf? (settings : List Setting) (letter : Char) : Option String :=
  (settings.filter (·.letter = letter)).getLast?.map (·.value)

/-- The last of some letters that was given. -/
def lastOf? (settings : List Setting) (letters : String) : Option Char :=
  (settings.filter fun o => letters.toList.contains o.letter).getLast?.map (·.letter)

/-! ## Operands and inputs -/

/-- Acts on each operand; the status is that of the last failure. -/
def eachOperand {α : Type} (operands : List α) (act : State → α → State) (s : State) : State :=
  operands.foldl (fun s operand =>
    let before := s.status
    let s := act (s.done 0) operand
    if s.status = 0 then s.done before else s) (s.done 0)

/-- The bytes that an operand stands for; a dash stands for the input. -/
def readOperand (s : State) (path : String) : Except IoError Bytes × State :=
  if path = "-" then
    match s.channelOf? 0 with
    | some (_, .directory) => (.error .isADirectory, s)
    | _ =>
      let (bytes, s) := s.readInput
      (.ok bytes, s)
  else
    match s.node path with
    | .ok (.stream number) =>
      let bytes := s.available number
      (.ok bytes, s.advance number bytes.length)
    | _ => (s.readFile path, s)

/-- Acts on the bytes of each operand, or of the input if there is none. -/
def eachInput (u : Usage) (operands : List String) (act : State → String → Bytes → State)
    (s : State) : State :=
  eachOperand (if operands.isEmpty then ["-"] else operands) (fun s path =>
    match readOperand s path with
    | (.ok bytes, s) => act s path bytes
    | (.error e, s) => s.complain (u.program ++ ": " ++ path ++ ": " ++ e.reason) u.status) s

/-- All bytes of the operands one after the other, or of the input if there is none. -/
def allInput (u : Usage) (operands : List String) (s : State) : Bytes × State :=
  (if operands.isEmpty then ["-"] else operands).foldl (fun (bytes, s) path =>
    match readOperand s path with
    | (.ok more, s) => (bytes ++ more, s)
    | (.error e, s) =>
      (bytes, s.complain (u.program ++ ": " ++ path ++ ": " ++ e.reason) u.status)) ([], s)

/-- Writes bytes to a path, where a stream may stand as well. -/
def writePath (s : State) (path : String) (bytes : Bytes) (mode : Nat := Node.plainMode) :
    Except IoError State :=
  match s.node path with
  | .ok (.stream number) => .ok (s.emitTo number bytes)
  | _ => do
    let tree ← s.tree.writeFile s.directory (Octet.toPath path) bytes mode
    return { s with tree }

/-! ## Lines -/

/-- The characters that stand for some bytes. -/
def charsOf (bytes : Bytes) : List Char := bytes.map Octet.ofByte

/-- The bytes that some characters stand for. -/
def bytesOf (text : List Char) : Bytes := text.map Octet.toByte

/-- The pieces of a text that end in a mark, each with it; the last one may lack it. -/
def piecesOf (mark : Char) (text : List Char) : List (List Char) :=
  text.foldr (fun c pieces =>
    match pieces with
    | piece :: rest => if c = mark then [c] :: pieces else (c :: piece) :: rest
    | [] => [[c]]) []

/-- The lines of a text, without their ends. -/
def linesOf (text : List Char) : List (List Char) :=
  (piecesOf '\n' text).map fun line => if line.getLast? = some '\n' then line.dropLast else line

/-- Lines with their ends. -/
def unlines (lines : List (List Char)) : List Char := lines.flatMap (· ++ ['\n'])

/-- Cuts a text at each mark. -/
def splitAt (mark : Char) (text : List Char) : List (List Char) :=
  text.foldr (fun c pieces =>
    match pieces with
    | piece :: rest => if c = mark then [] :: pieces else (c :: piece) :: rest
    | [] => []) [[]]

/-- A text filled up with blanks at the front. -/
def padFront (width : Nat) (text : String) : String :=
  String.ofList (List.replicate (width - text.length) ' ') ++ text

end WasmBindings.Shell
