import WasmBindings.Shell.Program
import WasmBindings.Shell.Regex

/-!
# Searching

The program that selects the lines in which expressions match.
-/

namespace WasmBindings.Shell.Search

/-- The options of the program. -/
def searching : Usage :=
  { program := "grep", flags := "EFGPivcnlLqsowxhHrRabzUITyZ0123456789!", valued := "efmABCdD<>/:"
    long := [("regexp", 'e'), ("file", 'f'), ("ignore-case", 'i'), ("invert-match", 'v'),
      ("count", 'c'), ("line-number", 'n'), ("files-with-matches", 'l'),
      ("files-without-match", 'L'), ("quiet", 'q'), ("silent", 'q'), ("no-messages", 's'),
      ("only-matching", 'o'), ("word-regexp", 'w'), ("line-regexp", 'x'), ("no-filename", 'h'),
      ("with-filename", 'H'), ("recursive", 'r'), ("max-count", 'm'), ("extended-regexp", 'E'),
      ("fixed-strings", 'F'), ("basic-regexp", 'G'), ("perl-regexp", 'P'), ("text", 'a'),
      ("after-context", 'A'), ("before-context", 'B'), ("context", 'C'), ("color", '!'),
      ("colour", '!'), ("null-data", 'z'), ("null", 'Z'), ("byte-offset", 'b'), ("include", '<'),
      ("exclude", '>'), ("exclude-dir", '/'), ("label", ':'), ("line-buffered", 'U'),
      ("dereference-recursive", 'R'), ("directories", 'd')]
    status := 2
    synopsis := "Usage: grep [OPTION]... PATTERNS [FILE]..." }

/-- What is searched for, and how. -/
structure Query where
  patterns : List Regex
  manner : Regex.Manner := {}
  words : Bool := false
  wholeLines : Bool := false
  inverted : Bool := false

namespace Query

/-- Whether a match may begin and end where it does. -/
def accepts (q : Query) (text : Array Char) (start stop : Nat) : Bool :=
  (!q.wholeLines || (start == 0 && stop == text.size)) &&
    (!q.words || (!Regex.isWordBefore text start && !Regex.isWordAt text stop))

/-- The longest match at a position. -/
def matchAt? (q : Query) (text : Array Char) (start : Nat) : Option (Nat × Nat) :=
  let stops := q.patterns.flatMap fun r =>
    ((Regex.ends q.manner text r { position := start }).map (·.position)).filter
      (q.accepts text start)
  match stops with
  | [] => none
  | stop :: others => some (start, others.foldl max stop)

/-- The first match from a position on. -/
def find? (q : Query) (text : Array Char) (from1 : Nat) : Option (Nat × Nat) :=
  (List.range (text.size + 1 - from1)).findSome? fun n => q.matchAt? text (from1 + n)

/-- All matches from a position on that are not empty. The fuel bounds their number. -/
def all (q : Query) (text : Array Char) : (fuel : Nat) → (position : Nat) → List (Nat × Nat)
  | 0, _ => []
  | fuel + 1, position =>
    match q.find? text position with
    | none => []
    | some (start, stop) =>
      if stop ≤ start then q.all text fuel (start + 1)
      else (start, stop) :: q.all text fuel stop

/-- Whether a line is selected. -/
def selects (q : Query) (line : List Char) : Bool :=
  (q.find? line.toArray 0).isSome != q.inverted

end Query

/-- How what was found is shown. -/
structure Display where
  counts : Bool := false
  names : Option Bool := none
  quiet : Bool := false
  numbers : Bool := false
  offsets : Bool := false
  /-- Whether a NUL ends a path, in place of what follows it otherwise. -/
  nulPaths : Bool := false
  onlyMatching : Bool := false
  withPath : Bool := false
  asText : Bool := false
  before : Nat := 0
  after : Nat := 0
  most : Option Nat := none
  ending : Char := '\n'

/-- A line of a file. -/
structure Line where
  number : Nat
  /-- How many bytes stand in front of it. -/
  offset : Nat
  text : List Char
  selected : Bool

/-- The lines of a file, each with whether it is selected; not more than some are. -/
def judged (q : Query) (most : Option Nat) : (number offset : Nat) → List (List Char) → List Line
  | _, _, [] => []
  | number, offset, text :: rest =>
    let selected := most ≠ some 0 && q.selects text
    let most := if selected then most.map (· - 1) else most
    ⟨number, offset, text, selected⟩ :: judged q most (number + 1) (offset + text.length + 1) rest

/-- The text in front of a line that is shown. -/
def front (d : Display) (path : String) (number offset : Nat) (mark : String) : String :=
  (if d.withPath then path ++ (if d.nulPaths then "\x00" else mark) else "") ++
    (if d.numbers then toString number ++ mark else "") ++
    (if d.offsets then toString offset ++ mark else "")

/-- Shows a part of a line. -/
def show1 (d : Display) (path mark : String) (line : Line) (start : Nat) (text : List Char)
    (s : State) : State :=
  s.emitText (front d path line.number (line.offset + start) mark ++ String.ofList text ++
    d.ending.toString)

/-- Shows a selected line, or the parts of it that match. -/
def showSelected (q : Query) (d : Display) (path : String) (line : Line) (s : State) : State :=
  if !d.onlyMatching then show1 d path ":" line 0 line.text s
  else if q.inverted then s
  else
    let text := line.text.toArray
    (q.all text (text.size + 2) 0).foldl (fun s (start, stop) =>
      show1 d path ":" line start (Regex.partOf text start stop) s) s

/-- Shows the selected lines and those around them. `since` is how long ago the last selected line
was, and `shown` the number of the last line that was shown. -/
def showLines (q : Query) (d : Display) (path : String) :
    List Line → (earlier : List Line) → (since shown : Option Nat) → State → State
  | [], _, _, _, s => s
  | line :: rest, earlier, since, shown, s =>
    if line.selected then
      let kept := ((earlier.take d.before).takeWhile fun l => shown.all (· < l.number)).reverse
      let first := (kept.head?.map (·.number)).getD line.number
      let s := if (0 < d.before ∨ 0 < d.after) ∧ shown.any (· + 1 < first) then s.emitLine "--"
        else s
      let s := if d.onlyMatching then s
        else kept.foldl (fun s l => show1 d path "-" l 0 l.text s) s
      showLines q d path rest [] (some 0) (some line.number) (showSelected q d path line s)
    else if since.any (· < d.after) ∧ !d.onlyMatching then
      showLines q d path rest [] (since.map (· + 1)) (some line.number)
        (show1 d path "-" line 0 line.text s)
    else showLines q d path rest (line :: earlier) since shown s

/-- Searches a text; the status is that of success if something was found in it. -/
def searchText (q : Query) (d : Display) (path : String) (bytes : Bytes) (s : State) : State :=
  let text := charsOf bytes
  let lines := (piecesOf d.ending text).map fun line =>
    if line.getLast? = some d.ending then line.dropLast else line
  let lines := judged q d.most 1 0 lines
  let count := (lines.filter (·.selected)).length
  let s := s.done (if count = 0 then 1 else 0)
  let pathEnd := if d.nulPaths then "\x00" else "\n"
  if d.quiet then s
  else
    match d.names with
    | some wanted => if (0 < count) = wanted then s.emitText (path ++ pathEnd) else s
    | none =>
      if d.counts then
        let name := if d.withPath then path ++ (if d.nulPaths then "\x00" else ":") else ""
        s.emitLine (name ++ toString count)
      else if d.ending = '\n' ∧ !d.asText ∧ text.contains '\x00' then
        if count = 0 then s else s.complain ("grep: " ++ path ++ ": binary file matches") 0
      else showLines q d path lines [] none none s

/-- Which files are looked at in directories. -/
structure Choice where
  included : List (List Glob) := []
  excluded : List (List Glob) := []
  excludedDirectories : List (List Glob) := []

/-- The patterns for names that are the values of an option. -/
def globsOf (settings : List Setting) (letter : Char) : List (List Glob) :=
  (settings.filter (·.letter = letter)).map fun o =>
    Glob.ofMarked ['!', '^'] (o.value.toList.map (·, true))

/-- Whether a name fits one of some patterns. -/
def fitsAny (globs : List (List Glob)) (name : String) : Bool :=
  globs.any fun g => Glob.fits g name.toList

/-- The paths of all files at and below a path. The fuel bounds how deep directories nest. -/
def filesBelow (s : State) (c : Choice) : (fuel : Nat) → String → List String
  | 0, _ => []
  | fuel + 1, path =>
    match s.placeOf (if path.isEmpty then "." else path) with
    | .error _ => [path]
    | .ok place =>
      match s.tree.find? place with
      | some .directory =>
        ((s.tree.names place).map Octet.ofText).flatMap fun name =>
          let path := if path.isEmpty then name
            else if path.toList.getLast? = some '/' then path ++ name else path ++ "/" ++ name
          let wanted := if s.isDirectory path then !fitsAny c.excludedDirectories name
            else (c.included.isEmpty || fitsAny c.included name) && !fitsAny c.excluded name
          if wanted then filesBelow s c fuel path else []
      | _ => [path]

/-- The patterns that the settings name, and the operands that are left. -/
def patternsOf (settings : List Setting) (operands : List String) (s : State) :
    Except String (List String × List String) := do
  let lines (text : String) : List String := text.splitOn "\n"
  let fromFiles ← (settings.filter (·.letter = 'f')).mapM fun o =>
    match readOperand s o.value with
    | (.ok bytes, _) => .ok ((linesOf (charsOf bytes)).map String.ofList)
    | (.error e, _) => .error ("grep: " ++ o.value ++ ": " ++ e.reason)
  let given := (settings.filter (·.letter = 'e')).flatMap fun o => lines o.value
  if settings.any fun o => o.letter = 'e' ∨ o.letter = 'f' then
    return (given ++ fromFiles.flatten, operands)
  else
    match operands with
    | pattern :: rest => return (lines pattern, rest)
    | [] => throw (String.ofList (searching.hint.toList.drop 1))

/-- The number that is the value of a setting, if there is such a setting. -/
def numberOf? (settings : List Setting) (letter : Char) (wrong : String → String) :
    Except String (Option Nat) :=
  match valueOf? settings letter with
  | none => .ok none
  | some text =>
    match text.toNat? with
    | some n => .ok (some n)
    | none => .error ("grep: " ++ wrong text)

/-- How what is found is shown, as the settings say. -/
def displayOf (settings : List Setting) : Except String Display := do
  let wrongContext (text : String) : String := text ++ ": invalid context length argument"
  let around ← numberOf? settings 'C' wrongContext
  let digits := (settings.filter (·.letter.isDigit)).map (·.letter)
  let around := around.getD (valueOfDigits 10 digits)
  let before ← numberOf? settings 'B' wrongContext
  let after ← numberOf? settings 'A' wrongContext
  let most ← numberOf? settings 'm' fun _ => "invalid max count"
  return {
    counts := given settings "c"
    names := (lastOf? settings "lL").map (· = 'l')
    quiet := given settings "q"
    numbers := given settings "n"
    offsets := given settings "b"
    nulPaths := given settings "Z"
    onlyMatching := given settings "o"
    withPath := lastOf? settings "hH" = some 'H'
    asText := given settings "a"
    before := before.getD around
    after := after.getD around
    most
    ending := if given settings "z" then '\x00' else '\n' }

/-- The expressions that are searched for, and the paths of the files. -/
def prepare (form : Char) (settings : List Setting) (operands : List String) (s : State) :
    Except String (List Regex × List String × Display) := do
  let forms := (settings.filter fun o => "EFGP".toList.contains o.letter).map (·.letter)
  if forms.any fun letter => forms.head? ≠ some letter then
    throw "grep: conflicting matchers specified"
  let form := forms.head?.getD form
  let read (text : String) : Except String Regex :=
    if form = 'F' then .ok (Regex.ofText text.toList)
    else
      match Regex.read { extended := form ≠ 'G' } text.toList with
      | .ok r => .ok r
      | .error fault => .error ("grep: " ++ fault.message)
  let display ← displayOf settings
  let (texts, operands) ← patternsOf settings operands s
  let patterns ← texts.mapM read
  let recursive := given settings "rR"
  let choice : Choice := {
    included := globsOf settings '<'
    excluded := globsOf settings '>'
    excludedDirectories := globsOf settings '/' }
  let paths :=
    if recursive then
      (if operands.isEmpty then [""] else operands).flatMap (filesBelow s choice 100)
    else if operands.isEmpty then ["-"] else operands
  let many := (lastOf? settings "hH").isNone && (recursive || 1 < paths.length)
  return (patterns, paths, { display with withPath := display.withPath || many })

/-- Searches files in a way that options ask for, unless they ask for another one. -/
def grepAs (form : Char) : Program := searching.run fun settings operands s =>
  match prepare form settings operands s with
  | .error text => s.complain text 2
  | .ok (patterns, paths, d) =>
    let q : Query := {
      patterns
      manner := { ignoresCase := given settings "iy" }
      words := given settings "w"
      wholeLines := given settings "x"
      inverted := given settings "v" }
    let label := (valueOf? settings ':').getD "(standard input)"
    let (found, failed, s) := paths.foldl (fun (found, failed, s) path =>
      if found ∧ d.quiet then (found, failed, s)
      else
        match readOperand s path with
        | (.error e, s) =>
          (found, true, if given settings "s" then s
            else s.complain ("grep: " ++ path ++ ": " ++ e.reason) 2)
        | (.ok bytes, s) =>
          let s := searchText q d (if path = "-" then label else path) bytes s
          (found || s.status = 0, failed, s)) (false, false, s)
    s.done (if found ∧ (d.quiet ∨ !failed) then 0 else if failed then 2 else 1)

/-- Searches files with basic expressions. -/
def grep : Program := grepAs 'G'

/-- Searches files with extended expressions. -/
def egrep : Program := grepAs 'E'

/-- Searches files for texts. -/
def fgrep : Program := grepAs 'F'

end WasmBindings.Shell.Search
