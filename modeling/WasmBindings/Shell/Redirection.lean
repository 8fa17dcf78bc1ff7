import WasmBindings.Shell.Expansion

/-!
# Redirection

For a command, streams can lead elsewhere: to files, to other streams, to a text, or nowhere.
Afterwards they lead where they led before.
-/

namespace WasmBindings.Shell

/-- Why a file cannot be opened, in the words of the shell. -/
def openReason (writing : Bool) (e : IoError) : String :=
  match e with
  | .notFound | .notADirectory => if writing then "Directory nonexistent" else "No such file"
  | e => e.reason

/-- A file cannot be opened. -/
def cannotOpen (s : State) (writing : Bool) (path : String) (e : IoError) : State :=
  match s.dialect with
  | .plain =>
    let verb := if writing then "cannot create " else "cannot open "
    s.shellError (verb ++ path ++ ": " ++ openReason writing e) 2
  | .extended =>
    let reason := if e = .alreadyExists then "cannot overwrite existing file" else e.reason
    s.shellError (path ++ ": " ++ reason) 1

/-- Opens a new channel for a file, or finds the one of a stream that is named like a file. -/
def openChannel (s : State) (kind : RedirectKind) (path : String) : Except IoError (Nat × State) :=
  match s.node path, kind with
  | .ok (.stream number), _ =>
    match s.channelOf? number with
    | some (index, _) => .ok (index, s)
    | none => .error .notFound
  | .ok .sink, _ => .ok (s.addChannel .sink)
  | .ok .zeros, .read => .ok (s.addChannel (.pipe (List.replicate FileTree.zeroCount 0)))
  | .ok .zeros, _ => .ok (s.addChannel .sink)
  | .error e, .read => .error e
  | .ok .directory, .read => .ok (s.addChannel .directory)
  | .ok _, .read => do return s.addChannel (.file (← s.placeOf path) 0 false)
  | .ok (.file ..), .write =>
    if s.options.protect then .error .alreadyExists else emptied []
  | _, .append | _, .readWrite => emptied ((s.readFile path).toOption.getD [])
  | _, _ => emptied []
where
  /-- The channel of a file that is written to, with what is left of its contents. -/
  emptied (contents : Bytes) : Except IoError (Nat × State) := do
    let tree ← s.tree.writeFile s.directory (Octet.toPath path) contents
    let s := { s with tree }
    return s.addChannel (.file (← s.placeOf path) 0 (kind = .append))

/-- Lets a stream lead where another one leads. -/
def duplicate (s : State) (stream : Nat) (target : String) : Except State State :=
  let digits := target.toList
  let isNumber := !digits.isEmpty ∧ digits.all Char.isDigit ∧
    (digits.length = 1 ∨ s.dialect = .extended)
  if target = "-" then .ok (s.close stream)
  else if isNumber then
    match s.channelOf? (target.toNat?.getD 0) with
    | some (index, _) => .ok (s.point stream index)
    | none =>
      let status := if s.dialect = .plain then 2 else 1
      .error (s.shellError (target ++ ": Bad file descriptor") status)
  else
    match s.dialect with
    | .plain => .error (s.malformed ⟨s.line + 1, "Bad fd number"⟩)
    | .extended => .error (s.shellError (target ++ ": ambiguous redirect") 1)

/-- Carries out a redirection; if that is not possible, gives back the state with the error. -/
def redirect (run : Runner) (s : State) (r : Redirect Word) : Except State State := do
  let (target, s) := expandText run r.target s
  if !s.isRunning then throw s
  let opened (kind : RedirectKind) : Except State (Nat × State) :=
    match openChannel s kind target with
    | .ok opened => .ok opened
    | .error e => .error (cannotOpen s (kind ≠ .read) target e)
  let both : Except State State := do
    let (index, s) ← opened .write
    return (s.point 1 index).point 2 index
  match r.kind with
  | .text =>
    let (index, s) := s.addChannel (.pipe (Octet.toBytes target))
    return s.point r.stream index
  | .duplicate =>
    if s.dialect = .extended ∧ r.stream = 1 ∧ target ≠ "-" ∧ !target.toList.all Char.isDigit then
      both
    else duplicate s r.stream target
  | .writeBoth => both
  | kind =>
    let (index, s) ← opened kind
    return s.point r.stream index

/-- The streams that a redirection changes. -/
def changedStreams (r : Redirect Word) : List Nat :=
  match r.kind with
  | .writeBoth => [1, 2]
  | .duplicate => if r.stream = 1 then [1, 2] else [r.stream]
  | _ => [r.stream]

/-- Lets the streams that some redirections change lead where they led before. -/
def restoreStreams (redirects : List (Redirect Word)) (before inner : State) : State :=
  let changed := redirects.flatMap changedStreams
  { inner with
    streams := before.streams.filter (fun (n, _) => changed.contains n) ++
      inner.streams.filter fun (n, _) => !changed.contains n }

/-- Carries out redirections and acts. If a redirection is not possible, nothing else is done. -/
def redirecting (run : Runner) (redirects : List (Redirect Word)) (act : State → State)
    (s : State) : State :=
  restoreStreams redirects s
    (match redirects.foldlM (redirect run) s with
    | .ok inner => act inner
    | .error inner => inner)

end WasmBindings.Shell
