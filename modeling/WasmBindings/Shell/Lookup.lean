import WasmBindings.Shell.State

/-!
# Looking up commands

What a name stands for where a command is expected: a word of the language, a command of the shell,
a function, or a program that is found in the directories of the search path.
-/

namespace WasmBindings.Shell

/-- The commands of the shell whose errors end a script. -/
def specialNames : List String :=
  [":", ".", "break", "continue", "eval", "exec", "exit", "export", "local", "readonly", "return",
    "set", "shift", "times", "trap", "unset"]

/-- The other commands of the shell. -/
def regularNames (dialect : Dialect) : List String :=
  ["[", "alias", "bg", "cd", "command", "echo", "false", "fg", "getopts", "hash", "jobs", "kill",
    "printf", "pwd", "read", "test", "true", "type", "ulimit", "umask", "unalias",
    "wait"] ++
    if dialect = .extended then ["builtin", "declare", "let", "shopt", "source", "typeset"] else []

/-- The search path of a shell or program that does not find one when it is started. -/
def usualPath : String := "/usr/local/sbin:/usr/local/bin:/usr/sbin:/usr/bin:/sbin:/bin"

/-- The directories of the search path, or of another one if there is none. -/
def searchPath (s : State) (usual : String := "") : List String :=
  ((s.valueOf? "PATH").getD usual).splitOn ":"

/-- The path of a name in a directory; the empty directory is the one the script works in. -/
def pathIn (directory name : String) : String :=
  if directory.isEmpty then name
  else if directory.toList.getLast? = some '/' then directory ++ name
  else directory ++ "/" ++ name

/-- What a name on the search path turned out to be. -/
inductive Located where
  | found (path : String)
  | forbidden
  | absent
  deriving DecidableEq, Repr

/-- Looks for a program in some directories. A file that cannot be run is remembered and passed
over. -/
def locateIn (s : State) (name : String) : List String → Located
  | [] => .absent
  | directory :: rest =>
    let path := pathIn directory name
    let later := locateIn s name rest
    match s.node path with
    | .ok node =>
      if node.isExecutable then .found path
      else if later = .absent ∧ !node.isDirectory then .forbidden
      else later
    | .error _ => later

/-- Looks for a program. -/
def locate (s : State) (name : String) (usual : String := "") : Located :=
  locateIn s name (searchPath s usual)

/-- What a name stands for that is no word of the language. -/
inductive Meaning where
  | builtin (special : Bool)
  | function (body : Statement)
  | program (path : String)
  | nothing

/-- The words that have a meaning of their own. -/
def keywords (dialect : Dialect) : List String :=
  ["!", "case", "do", "done", "elif", "else", "esac", "fi", "for", "if", "in", "then", "until",
    "while", "\x7b", "\x7d"] ++
    if dialect = .extended then ["[[", "]]", "function", "select", "time"] else []

/-- What a name stands for where a command is expected. -/
def meaningOf (s : State) (name : String) : Meaning :=
  if specialNames.contains name then .builtin true
  else
    match s.functions.find? (·.1 = name) with
    | some (_, body) => .function body
    | none =>
      if (regularNames s.dialect).contains name then .builtin false
      else if name.toList.contains '/' then
        match s.node name with
        | .ok node => if node.isExecutable then .program name else .nothing
        | .error _ => .nothing
      else
        match locate s name with
        | .found path => .program path
        | _ => .nothing

end WasmBindings.Shell
