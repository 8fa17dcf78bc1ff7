import WasmBindings.Shell.Editing.Script

/-!
# Carrying out commands for lines

A line is read into the pattern text, all commands are carried out on it, and it is shown. A step is
one command. Whatever is put after a line waits until the next line is read.
-/

namespace WasmBindings.Shell.Editing

/-- A line of the input. -/
structure InputLine where
  text : List Char
  /-- Whether the line has an end. -/
  ended : Bool := true
  /-- The file that it is from. -/
  path : String := "-"
  deriving Inhabited

/-- Whether a command's range of lines has begun, and where it ends. -/
inductive Progress where
  | outside
  /-- Up to the line of a number. -/
  | upTo (number : Nat)
  /-- Up to a line that an address selects. -/
  | inside
  deriving DecidableEq, Repr, Inhabited

/-- What waits to be put after a line. -/
inductive Addition where
  | text (characters : List Char)
  | file (path : String)

/-- How lines are edited. -/
structure Setup where
  commands : Array Command
  quiet : Bool := false
  /-- The character that ends lines. -/
  mark : Char := '\n'
  /-- How long the lines may be that show a text in full. -/
  width : Nat := 70
  /-- Whether the output stands in for the file that is read, and is kept apart. -/
  inPlace : Bool := false

/-- A line with another one after it, which decides whether there is an end. -/
def InputLine.joined (u : Setup) (a b : InputLine) : InputLine :=
  { a with text := a.text ++ [u.mark] ++ b.text, ended := b.ended }

/-- The state of the editing. -/
structure Machine where
  /-- The files around. -/
  shell : State
  /-- What was written, the last piece first. -/
  output : List (List Char) := []
  /-- Whether the line written last to the output lacks its end. -/
  missing : Bool := false
  /-- The files whose last lines lack their ends. -/
  missingIn : List String := []
  pattern : InputLine := { text := [] }
  hold : InputLine := { text := [] }
  number : Nat := 0
  input : List InputLine := []
  additions : List Addition := []
  /-- For each command, how far its range has got. -/
  progress : Array Progress := #[]
  replaced : Bool := false
  /-- The expression that was used last. -/
  recent : Option Regex := none
  /-- What is left of the files that are read line by line. -/
  readers : List (String × List (List Char)) := []
  position : Nat := 0
  /-- Whether nothing is left to do. -/
  finished : Bool := false
  /-- The status, if a command has ended the editing. -/
  status? : Option Nat := none

namespace Machine

/-! ## Output -/

/-- Writes characters to the output. -/
def put (m : Machine) (text : List Char) : Machine := { m with output := text :: m.output }

/-- Writes the end that the last line lacks. -/
def mend (u : Setup) (m : Machine) : Machine :=
  if m.missing then { m.put [u.mark] with missing := false } else m

/-- Writes a line; only one that has an end gets one. -/
def putLine (u : Setup) (m : Machine) (text : List Char) (ended : Bool) : Machine :=
  let m := (m.mend u).put text
  if ended then m.put [u.mark] else { m with missing := true }

/-- Writes the pattern text. -/
def show1 (u : Setup) (m : Machine) : Machine := m.putLine u m.pattern.text m.pattern.ended

/-- Writes a line to a file that has been opened for it. -/
def putInto (u : Setup) (m : Machine) (path : String) (text : List Char) (ended : Bool) : Machine :=
  if path = "/dev/stdout" ∧ !u.inPlace then m.putLine u text ended
  else
    let lacks := m.missingIn.contains path
    let line := (if lacks then [u.mark] else []) ++ text ++ (if ended then [u.mark] else [])
    let missingIn := m.missingIn.filter (· ≠ path) ++ (if ended then [] else [path])
    let shell := match path with
      | "/dev/stdout" => m.shell.emit (bytesOf line)
      | "/dev/stderr" => m.shell.emitTo 2 (bytesOf line)
      | path =>
        let before := (m.shell.readFile path).toOption.getD []
        (writePath m.shell path (before ++ bytesOf line)).toOption.getD m.shell
    { m with shell, missingIn }

/-- Writes what waits to be put after the line. -/
def flush (u : Setup) (m : Machine) : Machine :=
  m.additions.foldl (fun m a =>
    match a with
    | .text characters => (m.mend u).put characters
    | .file path =>
      match readOperand m.shell (if path = "/dev/stdin" then "-" else path) with
      | (.ok bytes, shell) =>
        if bytes.isEmpty then m else ({ m with shell }.mend u).put (charsOf bytes)
      | (.error _, _) => m) { m with additions := [] }

/-! ## Input -/

/-- Whether the line is the last one. -/
def isLast (m : Machine) : Bool := m.input.isEmpty

/-- Reads the next line; `adding` keeps the pattern text in front of it. -/
def readNext? (u : Setup) (m : Machine) (adding : Bool) : Option Machine :=
  match m.input with
  | [] => none
  | line :: input =>
    let m := m.flush u
    some { m with
      pattern := if adding then m.pattern.joined u line else line
      number := m.number + 1
      input
      replaced := false }

/-- Finishes with the line and goes on with the next one. -/
def nextCycle (u : Setup) (m : Machine) (showing : Bool) : Machine :=
  let m := if showing ∧ !u.quiet then m.show1 u else m
  match m.readNext? u false with
  | some m => { m with position := 0 }
  | none => { m.flush u with finished := true }

/-- Ends the editing with a status. -/
def stop (m : Machine) (status : Nat) : Machine :=
  { m with finished := true, status? := some status }

/-- Ends the editing because an expression was left out where none was used before. -/
def fail (m : Machine) : Machine :=
  { m with
    shell := m.shell.complain
      "sed: -e expression #1, char 0: no previous regular expression" 1 }.stop 1

/-! ## Selecting lines -/

/-- The expression that is meant, and the editing in which it is the one used last. -/
def expression? (m : Machine) (r : Option Regex) : Option (Regex × Machine) :=
  match r with
  | some r => some (r, { m with recent := some r })
  | none => m.recent.map (·, m)

/-- Whether an address selects the line. -/
def isAt (m : Machine) : Address → Bool × Machine
  | .line n => (m.number = n, m)
  | .last => (m.isLast, m)
  | .step first size =>
    (if size = 0 then m.number = first
      else first ≤ m.number ∧ (m.number - first) % size = 0, m)
  | .fitting r manner =>
    match m.expression? r with
    | some (r, m) => ((Regex.find? manner r m.pattern.text.toArray 0).isSome, m)
    | none => (false, m.fail)

/-- Where a range ends that begins with the line. -/
def beginRange (m : Machine) (last : RangeEnd) : Progress :=
  let upTo (stop : Nat) : Progress := if stop ≤ m.number then .outside else .upTo stop
  match last with
  | .at (.line n) => upTo n
  | .at (.step first size) =>
    let beyond := m.number - first
    upTo (first + if size = 0 then 0 else (beyond + size - 1) / size * size)
  | .at _ => .inside
  | .after count => upTo (m.number + count)
  | .multiple size => if size = 0 then .outside else .upTo ((m.number / size + 1) * size)

/-- Notes how far the range of the command has got. -/
def setProgress (m : Machine) (p : Progress) : Machine :=
  { m with progress := m.progress.setIfInBounds m.position p }

/-- Whether a range selects the line. -/
def isInRange (m : Machine) (first : Address) (last : RangeEnd) : Bool × Machine :=
  match m.progress[m.position]?.getD .outside with
  | .outside =>
    let (found, m) := m.isAt first
    if found then (true, m.setProgress (m.beginRange last)) else (false, m)
  | .upTo stop =>
    let m := if stop ≤ m.number then m.setProgress .outside else m
    (m.number ≤ stop, m)
  | .inside =>
    match last with
    | .at address =>
      let (found, m) := m.isAt address
      (true, if found then m.setProgress .outside else m)
    | _ => (true, m)

/-- Whether the line is one that a command is for. -/
def selects (m : Machine) : Selection → Bool × Machine
  | .all => (true, m)
  | .one address => m.isAt address
  | .range first _ last => m.isInRange first last

/-! ## Replacing -/

/-- How letters are changed: from here on, and the next one. -/
structure Casing where
  all : CaseChange := .none
  next : CaseChange := .none

/-- A character with its case changed. -/
def changed (change : CaseChange) (c : Char) : Char :=
  match change with
  | .upper | .upperOne => c.toUpper
  | .lower | .lowerOne => c.toLower
  | .none => c

/-- A text with its case changed. -/
def Casing.apply (k : Casing) : List Char → List Char
  | [] => []
  | c :: rest =>
    changed (if k.next = .none then k.all else k.next) c :: rest.map (changed k.all)

/-- The text that stands in the place of a match. -/
def replacement (text : Array Char) (found : Regex.Match) : Casing → List Piece → List Char
  | _, [] => []
  | k, .caseChange change :: rest =>
    let k : Casing := match change with
      | .upperOne | .lowerOne => { k with next := change }
      | change => { all := change }
    replacement text found k rest
  | k, .text characters :: rest =>
    k.apply characters ++ replacement text found { k with next := .none } rest
  | k, .group n :: rest =>
    let inner := found.group text n
    k.apply inner ++
      replacement text found (if inner.isEmpty then k else { k with next := .none }) rest

/-- Replaces matches from a position on; `count` matches have been found so far, the last of which
ended at `before`. Says whether something was replaced. The fuel bounds the number of matches. -/
def replaceFrom (s : Substitution) (r : Regex) (manner : Regex.Manner) (text : Array Char) :
    (fuel : Nat) → (position : Nat) → (before : Option Nat) → (count : Nat) → List Char × Bool
  | 0, position, _, _ => (Regex.partOf text position text.size, false)
  | fuel + 1, position, before, count =>
    let rest := Regex.partOf text position text.size
    match Regex.find? manner r text position with
    | none => (rest, false)
    | some found =>
      let front := Regex.partOf text position found.start
      let isEmpty := found.stop = found.start
      -- nothing is found again where something was found just before
      let counts := !(isEmpty && before = some found.start)
      let count := if counts then count + 1 else count
      let chosen := counts && s.occurrence.getD 1 ≤ count
      let inner := if chosen then replacement text found {} s.pieces
        else Regex.partOf text found.start found.stop
      if chosen ∧ !s.everywhere then
        (front ++ inner ++ Regex.partOf text found.stop text.size, true)
      else if isEmpty then
        if text.size ≤ found.start then (front ++ inner, chosen)
        else
          let (after, more) := replaceFrom s r manner text fuel (found.start + 1) none count
          (front ++ inner ++ Regex.partOf text found.start (found.start + 1) ++ after,
            chosen || more)
      else
        let (after, more) := replaceFrom s r manner text fuel found.stop (some found.stop) count
        (front ++ inner ++ after, chosen || more)

/-- Carries out a replacement. -/
def substitute (u : Setup) (m : Machine) (s : Substitution) : Machine :=
  match m.expression? s.expression with
  | none => m.fail
  | some (r, m) =>
    let text := m.pattern.text.toArray
    match replaceFrom s r s.manner text (text.size + 2) 0 none 0 with
    | (_, false) => m
    | (text, true) =>
      let m := { m with pattern := { m.pattern with text }, replaced := true }
      let m := if s.prints then m.show1 u else m
      match s.target with
      | some path => m.putInto u path text m.pattern.ended
      | none => m

/-! ## Other commands -/

/-- A byte as it is shown in a text that is shown in full. -/
def shown (b : UInt8) : List Char :=
  match b with
  | 0x5c => ['\\', '\\']
  | 0x07 => ['\\', 'a']
  | 0x08 => ['\\', 'b']
  | 0x09 => ['\\', 't']
  | 0x0a => ['\\', 'n']
  | 0x0b => ['\\', 'v']
  | 0x0c => ['\\', 'f']
  | 0x0d => ['\\', 'r']
  | b =>
    if 0x20 ≤ b ∧ b < 0x7f then [Char.ofNat b.toNat]
    else
      let n := b.toNat
      '\\' :: [n / 64, n / 8 % 8, n % 8].map fun d => Char.ofNat (d + '0'.toNat)

/-- Pieces in lines that are not too long, a backslash at the end of each but the last. -/
def wrapped (width : Nat) : (used : Nat) → List (List Char) → List Char
  | _, [] => []
  | used, piece :: rest =>
    if 0 < width ∧ width - 1 < used + piece.length then
      '\\' :: '\n' :: piece ++ wrapped width piece.length rest
    else piece ++ wrapped width (used + piece.length) rest

/-- The first line of a text. -/
def firstLine (u : Setup) (text : List Char) : List Char := text.takeWhile (· ≠ u.mark)

/-- Takes the next line of a file that is read line by line. -/
def takeLine (u : Setup) (m : Machine) (path : String) : Option (List Char) × Machine :=
  let lines := match m.readers.find? (·.1 = path) with
    | some (_, lines) => lines
    | none => piecesOf u.mark (charsOf ((m.shell.readFile path).toOption.getD []))
  let readers := (path, lines.drop 1) :: m.readers.filter (·.1 ≠ path)
  (lines.head?.map fun l => if l.getLast? = some u.mark then l.dropLast else l, { m with readers })

/-- Goes on at a label, or at the end of the script. -/
def goTo (u : Setup) (m : Machine) (label : String) : Machine :=
  { m with position :=
      if label.isEmpty then u.commands.size
      else (u.commands.findIdx? (Command.isLabel label)).getD u.commands.size }

/-- Puts another text in the place of the pattern text. -/
def withText (m : Machine) (text : List Char) : Machine :=
  { m with pattern := { m.pattern with text } }

/-- Carries out what a command does to a line that it is for; `isOpen` says that it is for further
lines of a range. -/
def act (u : Setup) (m : Machine) (isOpen : Bool) : Action → Machine
  | .nothing | .label _ | .block _ => m
  | .substitute s => m.substitute u s
  | .translate pairs =>
    m.withText (m.pattern.text.map fun c => ((pairs.find? (·.1 = c)).map (·.2)).getD c)
  | .delete => m.nextCycle u false
  | .deleteFirst =>
    if m.pattern.text.contains u.mark then
      { m.withText (m.pattern.text.drop ((firstLine u m.pattern.text).length + 1)) with
        position := 0 }
    else m.nextCycle u false
  | .print => m.show1 u
  | .printFirst => m.putLine u (firstLine u m.pattern.text) true
  | .quit status silently =>
    if silently then m.stop status
    else ((if u.quiet then m else m.show1 u).flush u).stop status
  | .append text => { m with additions := m.additions ++ [.text text] }
  | .insert text => (m.mend u).put text
  | .change text => (if isOpen then m else (m.mend u).put text).nextCycle u false
  | .next =>
    if m.isLast then m.nextCycle u true
    else
      let m := if u.quiet then m else m.show1 u
      (m.readNext? u false).getD m
  | .appendNext => if m.isLast then m.nextCycle u true else (m.readNext? u true).getD m
  | .hold => { m with hold := m.pattern }
  | .appendHold => { m with hold := m.hold.joined u m.pattern }
  | .get => { m with pattern := m.hold }
  | .appendGet => { m with pattern := m.pattern.joined u m.hold }
  | .exchange => { m with pattern := m.hold, hold := m.pattern }
  | .branch label => m.goTo u label
  | .branchIf wanted label =>
    if m.replaced = wanted then { m.goTo u label with replaced := false }
    else { m with replaced := false }
  | .readFile path => { m with additions := m.additions ++ [.file path] }
  | .readLine path =>
    match m.takeLine u path with
    | (some line, m) => { m with additions := m.additions ++ [.text (line ++ [u.mark])] }
    | (none, m) => m
  | .writeFile path => m.putInto u path m.pattern.text m.pattern.ended
  | .writeFirst path => m.putInto u path (firstLine u m.pattern.text) true
  | .number => (m.mend u).put ((toString m.number).toList ++ ['\n'])
  | .path => (m.mend u).put (m.pattern.path.toList ++ ['\n'])
  | .list width =>
    let pieces := (bytesOf m.pattern.text).map shown
    (m.mend u).put (wrapped (width.getD u.width) 0 pieces ++ ['$', '\n'])
  | .clear => m.withText []

/-- Carries out the next command; after the last one comes the next line. -/
def step (u : Setup) (m : Machine) : Machine :=
  match u.commands[m.position]? with
  | none => m.nextCycle u true
  | some c =>
    let (found, m) := m.selects c.selection
    if m.finished then m
    else
      let isOpen := m.progress[m.position]?.getD .outside ≠ .outside
      let next := { m with position := m.position + 1 }
      if found ≠ c.negated then next.act u isOpen c.action
      else
        match c.action with
        | .block stop => { m with position := stop }
        | _ => next

/-- Carries out commands until nothing is left to do. The fuel bounds their number. -/
def run (u : Setup) : (fuel : Nat) → Machine → Machine
  | 0, m => m
  | fuel + 1, m => if m.finished then m else run u fuel (m.step u)

/-- How many commands are carried out at most. -/
def stepLimit : Nat := 100000000

/-- How far the range of a command has got before the first line. -/
def firstProgress (c : Command) : Progress :=
  match c.selection with
  | .range _ true _ => .inside
  | _ => .outside

/-- Edits lines. -/
def edit (u : Setup) (shell : State) (lines : List InputLine) (missing : Bool) : Machine :=
  let m : Machine := { shell, missing, input := lines, progress := u.commands.map firstProgress }
  match m.readNext? u false with
  | some m => m.run u stepLimit
  | none => m

end Machine

end WasmBindings.Shell.Editing
