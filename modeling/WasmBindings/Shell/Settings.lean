import WasmBindings.Shell.Arithmetic
import WasmBindings.Shell.Signals

/-!
# Variables and options

The commands of the shell that set variables, arguments and options, and read the input into
variables.
-/

namespace WasmBindings.Shell.Settings

/-! ## Options -/

/-- Switches an option on or off by its letter. -/
def switch? (o : Options) (letter : Char) (on : Bool) : Option Options :=
  match letter with
  | 'a' => some { o with exporting := on }
  | 'C' => some { o with protect := on }
  | 'e' => some { o with strict := on }
  | 'f' => some { o with literal := on }
  | 'n' => some { o with idle := on }
  | 'u' => some { o with required := on }
  | 'x' => some { o with trace := on }
  | _ => if ['b', 'E', 'I', 'i', 'm', 'p', 's', 'v', 'V'].contains letter then some o else none

/-- The letter of an option with a name. -/
def letterOf? : String → Option Char
  | "allexport" => some 'a'
  | "noclobber" => some 'C'
  | "errexit" => some 'e'
  | "noglob" => some 'f'
  | "nounset" => some 'u'
  | "xtrace" => some 'x'
  | "ignoreeof" => some 'I'
  | "interactive" => some 'i'
  | "monitor" => some 'm'
  | "noexec" => some 'n'
  | "stdin" => some 's'
  | "verbose" => some 'v'
  | "vi" => some 'V'
  | "emacs" => some 'E'
  | "notify" => some 'b'
  | "privileged" => some 'p'
  | "nolog" | "debug" => some 'p'
  | _ => none

/-- Switches an option with a name on or off. -/
def switchNamed (dialect : Dialect) (o : Options) (name : String) (on : Bool) :
    Except String Options :=
  if dialect = .extended ∧ name = "pipefail" then .ok { o with anyFailure := on }
  else if dialect = .extended ∧ ["posix", "braceexpand", "hashall"].contains name then .ok o
  else
    match (letterOf? name).bind (switch? o · on) with
    | some o => .ok o
    | none =>
      .error ("Illegal option " ++ (if on then "-" else "+") ++ "o " ++ name)

/-- Reads a cluster of option letters; the letter `o` takes a name from the words. -/
def switchAll (dialect : Dialect) (on : Bool) : List Char → List String → Options →
    Except String (Options × List String)
  | [], words, o => .ok (o, words)
  | 'o' :: letters, words, o =>
    match words with
    | [] => switchAll dialect on letters [] o
    | name :: words => do
      switchAll dialect on letters words (← switchNamed dialect o name on)
  | letter :: letters, words, o =>
    match switch? o letter on with
    | some o => switchAll dialect on letters words o
    | none =>
      if dialect = .extended ∧ ['h', 'B', 'H', 'k', 'r', 't', 'E', 'T', 'P'].contains letter then
        switchAll dialect on letters words o
      else .error ("Illegal option " ++ (if on then "-" else "+") ++ letter.toString)

/-- Reads options at the front of some words. What is left are the new arguments, if there are any
or if dashes say that there are none. The fuel bounds the number of words. -/
def readOptions (dialect : Dialect) : (fuel : Nat) → List String → Options →
    Except String (Options × Option (List String))
  | 0, _, o => .ok (o, none)
  | _, [], o => .ok (o, none)
  | fuel + 1, word :: words, o =>
    match word.toList with
    | ['-', '-'] => .ok (o, some words)
    | ['-'] => .ok ({ o with trace := false }, if words.isEmpty then none else some words)
    | '-' :: letters => do
      let (o, words) ← switchAll dialect true letters words o
      readOptions dialect fuel words o
    | '+' :: c :: letters => do
      let (o, words) ← switchAll dialect false (c :: letters) words o
      readOptions dialect fuel words o
    | _ => .ok (o, some (word :: words))

/-- The variables in the order of their names. -/
def sorted (bindings : List Variable) : List Variable :=
  bindings.mergeSort fun a b => Octet.precedes a.name.toList b.name.toList

/-- A variable and its value, so that it can be read again. -/
def shown (front : String) (v : Variable) : String :=
  front ++ v.name ++ match v.value with
    | some value => "=" ++ Signals.inQuotes value
    | none => ""

/-- The names and states of the options. -/
def optionList (o : Options) : List (String × Bool) :=
  [("errexit", o.strict), ("noglob", o.literal), ("ignoreeof", false), ("interactive", false),
    ("monitor", false), ("noexec", o.idle), ("stdin", false), ("xtrace", o.trace),
    ("verbose", false), ("vi", false), ("emacs", false), ("noclobber", o.protect),
    ("allexport", o.exporting), ("notify", false), ("nounset", o.required),
    ("privileged", false), ("nolog", false), ("debug", false)]

/-- A text filled up with blanks at its end. -/
def padEnd (width : Nat) (text : String) : String :=
  text ++ String.ofList (List.replicate (width - text.length) ' ')

/-- Sets options and arguments, or shows the variables. -/
def set : Builtin := fun _ words s =>
  match words with
  | [] => .ok (((sorted (s.bindings.filter (·.value.isSome))).foldl (fun s v =>
      s.emitLine (shown "" v)) s).done 0)
  | ["-o"] => .ok (((optionList s.options).foldl (fun s (name, on) =>
      s.emitLine (padEnd 16 name ++ if on then "on" else "off"))
      (s.emitLine "Current option settings")).done 0)
  | ["+o"] => .ok (((optionList s.options).foldl (fun s (name, on) =>
      s.emitLine ((if on then "set -o " else "set +o ") ++ name)) s).done 0)
  | words => do
    let (options, arguments) ← readOptions s.dialect (words.length + 1) words s.options
    return { s with options, arguments := arguments.getD s.arguments, status := 0 }

/-! ## Variables -/

/-- The name and the value of an assignment in one word. -/
def divided (word : String) : String × Option String :=
  let name := word.toList.takeWhile (· ≠ '=')
  (String.ofList name,
    match word.toList.drop name.length with
    | _ :: value => some (String.ofList value)
    | [] => none)

/-- Marks variables, which may get values. -/
def mark (change : Variable → Variable) (words : List String) (s : State) :
    Except String State :=
  words.foldlM (fun s word =>
    let (name, value) := divided word
    if !isName name.toList then .error (name ++ ": bad variable name")
    else
      match s.lookup? name, value with
      | some v, some value =>
        if v.readOnly then .error (name ++ ": is read only")
        else .ok (s.putVariable (change { v with value }))
      | some v, none => .ok (s.putVariable (change v))
      | none, value => .ok (s.putVariable (change ⟨name, value, false, false⟩))) s

/-- Marks variables, or shows those that are marked. -/
def marking (front : String) (isMarked : Variable → Bool) (change unchange : Variable → Variable) :
    Builtin := fun _ words s =>
  match words with
  | [] | ["-p"] =>
    .ok (((sorted (s.bindings.filter isMarked)).foldl (fun s v =>
      s.emitLine (shown front v)) s).done 0)
  | "--" :: words | "-p" :: words => mark change words (s.done 0)
  | "-n" :: words => mark unchange words (s.done 0)
  | word :: words =>
    match word.toList with
    | '-' :: c :: _ => .error ("Illegal option -" ++ c.toString)
    | _ => mark change (word :: words) (s.done 0)

/-- Lets programs see variables. -/
def exportVariables : Builtin :=
  marking "export " (·.exported) ({ · with exported := true }) ({ · with exported := false })

/-- Protects variables against changes. -/
def protectVariables : Builtin :=
  marking "readonly " (·.readOnly) ({ · with readOnly := true }) id

/-- Hides a variable for the rest of a function. -/
def hide (s : State) (name : String) : State :=
  match s.hidden with
  | [] => s
  | top :: rest =>
    if top.any (·.1 = name) then s
    else { s with hidden := ((name, s.lookup? name) :: top) :: rest }

/-- Makes variables that are there only inside a function. -/
def localVariables : Builtin := fun _ words s =>
  if s.hidden.isEmpty then
    .error (match s.dialect with
      | .plain => "not in a function"
      | .extended => "can only be used in a function")
  else
    (words.filter fun w => w.toList.head? ≠ some '-').foldlM (fun s word => do
      let (name, value) := divided word
      if !isName name.toList then throw (name ++ ": bad variable name")
      let s := hide s name
      match value with
      | some value => return s.assign name value
      | none =>
        return if s.dialect = .extended then s.putVariable ⟨name, none, false, false⟩ else s)
      (s.done 0)

/-- Takes away variables or functions. -/
def unset : Builtin := fun _ words s =>
  let (functions, words) := match words with
    | "-f" :: words => (true, words)
    | "-v" :: words => (false, words)
    | "--" :: words => (false, words)
    | words => (false, words)
  words.foldlM (fun s name =>
    if functions then .ok { s with functions := s.functions.filter (·.1 ≠ name) }
    else if !isName name.toList then .error (name ++ ": bad variable name")
    else
      match s.lookup? name with
      | some v => if v.readOnly then .error (name ++ ": is read only")
        else .ok (s.removeVariable name)
      | none =>
        if s.dialect = .extended then
          .ok { s with functions := s.functions.filter (·.1 ≠ name) }
        else .ok s) (s.done 0)

/-- Drops the first arguments. -/
def shift : Builtin := fun _ words s => do
  let n ← match words with
    | [] => pure 1
    | word :: _ => naturalOf word
  if s.arguments.length < n then
    match s.dialect with
    | .plain => throw "can't shift that many"
    | .extended => return s.done 1
  return { s with arguments := s.arguments.drop n, status := 0 }

/-! ## Reading -/

/-- The characters of a line that is read, each with whether it was escaped; how many characters of
the input that takes; and whether the line has an end. -/
def lineOf (raw : Bool) (ending : Char) : List Char → List (Char × Bool) × Nat × Bool
  | [] => ([], 0, false)
  | '\\' :: c :: rest =>
    if raw then
      if c = ending then ([('\\', false)], 2, true)
      else
        let (text, count, ended) := lineOf raw ending (c :: rest)
        (('\\', false) :: text, count + 1, ended)
    else
      let (text, count, ended) := lineOf raw ending rest
      (if c = '\n' then text else (c, true) :: text, count + 2, ended)
  | c :: rest =>
    if c = ending then ([], 1, true)
    else
      let (text, count, ended) := lineOf raw ending rest
      (if c = '\x00' ∨ (c = '\\' ∧ !raw) then text else (c, false) :: text, count + 1, ended)

/-- Whether a character separates fields, being a blank or not. -/
def isSeparator (separators : List Char) (blank : Bool) (c : Char × Bool) : Bool :=
  !c.2 && separators.contains c.1 && [' ', '\t', '\n'].contains c.1 == blank

/-- The first field of a line, and what follows the separator after it. -/
def firstField (separators : List Char) (text : List (Char × Bool)) :
    List Char × List (Char × Bool) :=
  let blank := isSeparator separators true
  let other := isSeparator separators false
  let field := text.takeWhile fun c => !blank c && !other c
  let rest := (text.drop field.length).dropWhile blank
  let rest := match rest with
    | c :: after => if other c then after.dropWhile blank else rest
    | [] => []
  (field.map (·.1), rest)

/-- The rest of a line as one value: without blanks at its end, and without a separator if that only
ends the last field. -/
def lastField (separators : List Char) (text : List (Char × Bool)) : List Char :=
  let (field, rest) := firstField separators text
  if rest.isEmpty then field
  else ((text.reverse.dropWhile (isSeparator separators true)).reverse).map (·.1)

/-- Divides a line among variables. -/
def divide (separators : List Char) : List String → List (Char × Bool) → State → State
  | [], _, s => s
  | [name], text, s => s.assign name (String.ofList (lastField separators text))
  | name :: names, text, s =>
    let (field, rest) := firstField separators text
    divide separators names rest (s.assign name (String.ofList field))

/-- The options of reading: whether backslashes are nothing special, and what ends a line. -/
def readUsage : List String → (raw : Bool) → (ending : Char) → Bool × Char × List String
  | "-r" :: words, _, ending => readUsage words true ending
  | "-p" :: _ :: words, raw, ending => readUsage words raw ending
  | "-d" :: mark :: words, raw, _ => readUsage words raw (mark.toList.head?.getD '\x00')
  | "--" :: words, raw, ending => (raw, ending, words)
  | words, raw, ending => (raw, ending, words)

/-- Reads a line of the input into variables. -/
def read : Builtin := fun _ words s =>
  let (raw, ending, names) := readUsage words false '\n'
  let names := if names.isEmpty ∧ s.dialect = .extended then ["REPLY"] else names
  match names with
  | [] => .error "arg count"
  | names =>
    match names.find? fun name => !isName name.toList with
    | some name => .error (name ++ ": bad variable name")
    | none =>
      let (text, count, ended) := lineOf raw ending ((s.available 0).map Octet.ofByte)
      let s := s.advance 0 count
      let separators := s.separators
      let text := text.dropWhile (isSeparator separators true)
      .ok ((divide separators names text s).done (if ended then 0 else 1))

/-! ## Options of a script -/

/-- Reads the next option of the arguments into a variable. -/
def getopts : Builtin := fun _ words s =>
  match words with
  | known :: name :: given =>
    let arguments := if given.isEmpty then s.arguments else given
    let silent := known.toList.head? = some ':'
    let index := ((s.valueOf? "OPTIND").bind String.toNat?).getD 1
    let s := if index = 1 ∧ s.optionIndex ≠ 1 then { s with optionLetter := 0 } else s
    let finish (s : State) (letter : String) (index letterIndex : Nat) (status : Nat) : State :=
      (({ s with optionLetter := letterIndex, optionIndex := index }.assign name letter).assign
        "OPTIND" (toString index)).done status
    let ended (s : State) (index : Nat) : State := finish s "?" index 0 1
    match arguments[index - 1]? with
    | none => .ok (ended s index)
    | some word =>
      let letters := word.toList
      let position := max 1 s.optionLetter
      if word = "--" then .ok (ended s (index + 1))
      else if letters.head? ≠ some '-' ∨ letters.length < 2 then .ok (ended s index)
      else
        let letter := letters[position]?.getD '?'
        let isLast := letters.length ≤ position + 1
        let next : Nat × Nat := if isLast then (index + 1, 0) else (index, position + 1)
        let found := (known.toList.drop (if silent then 1 else 0)).dropWhile (· ≠ letter)
        let wrong (s : State) (text : String) : State :=
          if silent then s else (s.complain text 0)
        if letter = ':' ∨ found.isEmpty then
          let s := if silent then s.assign "OPTARG" letter.toString else s.removeVariable "OPTARG"
          .ok (finish (wrong s ("Illegal option -" ++ letter.toString)) "?" next.1 next.2 0)
        else if found[1]? = some ':' then
          if !isLast then
            let value := String.ofList (letters.drop (position + 1))
            .ok (finish (s.assign "OPTARG" value) letter.toString (index + 1) 0 0)
          else
            match arguments[index]? with
            | some value =>
              .ok (finish (s.assign "OPTARG" value) letter.toString (index + 2) 0 0)
            | none =>
              let s := if silent then s.assign "OPTARG" letter.toString
                else s.removeVariable "OPTARG"
              .ok (finish (wrong s ("No arg for -" ++ letter.toString ++ " option"))
                (if silent then ":" else "?") (index + 1) 0 0)
        else .ok (finish (s.assign "OPTARG" "") letter.toString next.1 next.2 0)
  | _ => .error "Usage: getopts optstring var [arg]"

end WasmBindings.Shell.Settings
