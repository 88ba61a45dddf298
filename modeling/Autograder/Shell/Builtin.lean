/-
# Built-in commands

The commands that a shell does itself, by their names, and what a name stands for. A fault of a
special one ends the script; that of another one is a failure like others.
-/

import Autograder.Shell.Program

namespace Autograder
namespace Shell
namespace Builtin

/-- The special built-in commands. -/
def specialNames : List String :=
  [".", ":", "break", "continue", "eval", "exec", "exit", "export", "local", "readonly", "return",
    "set", "shift", "times", "trap", "unset"]

/-- The other built-in commands. -/
def regularNames : List String :=
  ["[", "alias", "bg", "cd", "chdir", "command", "echo", "false", "fg", "getopts", "hash", "jobs",
    "kill", "printf", "pwd", "read", "test", "true", "type", "ulimit", "umask", "unalias", "wait"]

/-- The built-in commands whose arguments can be assignments. -/
def declaring : List String := ["alias", "export", "local", "readonly"]

/-- A name is among others. -/
def isAmong (names : List String) (name : List Char) : Bool := names.any fun s => s.toList == name

/-- What a name stands for. -/
inductive Meaning where
  | keyword
  | renamed (value : List Char)
  | special
  | function (f : Function)
  | regular
  | program (path : List Char)
  | nothing

/-- What a command of a name is, if it is not a program. -/
def Meaning.inside (m : Machine) (name : List Char) : Meaning :=
  if isAmong specialNames name then .special
  else
    match m.functions.find? fun f => f.name == name with
    | some f => .function f
    | none => if isAmong regularNames name then .regular else .nothing

/-- What a name stands for. -/
def Meaning.of (m : Machine) (name : List Char) : Meaning :=
  if isAmong keywords name then .keyword
  else
    match m.aliases.find? fun a => a.1 == name with
    | some a => .renamed a.2
    | none =>
      match Meaning.inside m name, Program.path? m name with
      | .nothing, .ok path => if Program.isThere m.files path then .program path else .nothing
      | .nothing, .error _ => .nothing
      | meaning, _ => meaning

/-- Says what a name stands for: in words, or such that it can be used. -/
def describe (inWords : Bool) (name : List Char) : Run Nat := do
  let say (words : String) (short : List Char) : Run Nat := do
    writeLine (if inWords then name ++ bytesOf (" is " ++ words) else short)
    pure 0
  match Meaning.of (← get) name with
  | .keyword => say "a shell keyword" name
  | .special => say "a special shell builtin" name
  | .function _ => say "a shell function" name
  | .regular => say "a shell builtin" name
  | .renamed value => do
    writeLine (if inWords then name ++ bytesOf " is an alias for " ++ value
      else bytesOf "alias " ++ name ++ '=' :: inQuotes value)
    pure 0
  | .program path => do
    writeLine (if inWords then name ++ bytesOf " is " ++ path else path)
    pure 0
  | .nothing => do
    if inWords then writeLine (name ++ bytesOf ": not found")
    pure 127

/-- Says what names stand for. -/
def type (names : List (List Char)) : Run Nat := do
  let mut status := 0
  for name in names do
    status := max status (← describe true name)
  pure status

/-- Says what the first name stands for. The other meaning of the command is no matter of its own:
it is the meaning of its arguments. -/
def command (args : List (List Char)) : Run Nat := do
  let (os, names) ← switches "pvV" "" args
  match names with
  | [] => pure 0
  | name :: _ => describe (isOn 'V' os) name

/-- Looks for programs. -/
def hash (args : List (List Char)) : Run Nat := do
  let (_, names) ← switches "rv" "" args
  let mut status := 0
  for name in names do
    match Meaning.of (← get) name with
    | .nothing => do
      complain (name ++ bytesOf ": not found")
      status := 1
    | _ => pure ()
  pure status

/-- Runs its arguments as a script. -/
def eval (e : Engine) (args : List (List Char)) : Run Nat := do
  e.run (Printing.joined args)
  pure (← get).status

/-- Something that a function or a script of the same shell does, which may end before its end. -/
def returning (act : Run Unit) : Run Unit := do
  match ← attempt act with
  | none => pure ()
  | some (.back n) => setStatus n
  | some stop => throw stop

/-- The path of a script. A name without a slash is looked for. -/
def scriptPath (name : List Char) : Run (List Char) := do
  if name.contains '/' then pure name
  else
    let m ← get
    let isScript (path : List Char) : Bool :=
      match m.files.find (toText path) with
      | .ok (_, .file _ _) => true
      | _ => false
    match (Program.candidates m name).find? isScript with
    | some path => pure path
    | none => giveUp (name ++ bytesOf ": not found")

/-- Runs a script in this shell. -/
def source (e : Engine) (args : List (List Char)) : Run Nat := do
  let (_, args) ← switches "" "" args
  match args with
  | [] => pure 0
  | name :: _ => do
    let path ← scriptPath name
    let script ← Program.scriptIn path
    withTopic path (returning (e.run script))
    pure (← get).status

/-- A program that cannot be run. -/
def cannotRun (name : List Char) (e : FileError) : Run Unit := do
  match e with
  | .notFound | .notADirectory => do
    complain (name ++ bytesOf ": not found")
    setStatus 127
  | .isADirectory => do
    complain (name ++ bytesOf (": " ++ FileError.permissionDenied.reason))
    setStatus 127
  | e => do
    complain (name ++ bytesOf (": " ++ e.reason))
    setStatus 126

/-- The process goes on as a program. Only signals that are ignored stay so. -/
def replace (e : Engine) (args : List (List Char)) : Run Nat := do
  match args with
  | [] => pure 0
  | name :: args => do
    let m ← get
    match Program.named e m name with
    | .ok act => do
      set { m with traps := m.traps.filter fun t => t.1 != 0 && t.2.isEmpty }
      untilEnd e.run (act args)
      throw (.gone (← get).status)
    | .error err => do
      cannotRun name err
      throw (.exit (← get).status)

/-- What a special built-in command does. -/
def special? (e : Engine) (name : String) : Option (List (List Char) → Run Nat) :=
  match name with
  | ":" => some fun _ => pure 0
  | "." => some (source e)
  | "break" => some (leaveLoops .leave)
  | "continue" => some (leaveLoops .again)
  | "eval" => some (eval e)
  | "exec" => some (replace e)
  | "exit" => some exit
  | "export" => some exportThem
  | "local" => some ownThem
  | "readonly" => some fixThem
  | "return" => some return_
  | "set" => some setThem
  | "shift" => some shift
  | "times" => some fun _ => times
  | "trap" => some trap
  | "unset" => some forget
  | _ => none

/-- What another built-in command does. -/
def regular? (e : Engine) (name : String) : Option (List (List Char) → Run Nat) :=
  match name with
  | "true" => some fun _ => pure 0
  | "false" => some fun _ => pure 1
  | "[" => some (Utility.bracket complain)
  | "test" => some (Utility.test complain)
  | "alias" => some nameCommands
  | "unalias" => some unnameCommands
  | "bg" | "fg" => some toFront
  | "cd" | "chdir" => some cd
  | "command" => some command
  | "echo" => some fun args => do
    write (Printing.echo args)
    pure 0
  | "getopts" => some getOption
  | "hash" => some hash
  | "jobs" => some jobs
  | "kill" => some (kill e)
  | "printf" => some (Utility.printf complain)
  | "pwd" => some pwd
  | "read" => some read
  | "type" => some type
  | "ulimit" => some ulimit
  | "umask" => some umask
  | "wait" => some wait
  | _ => none

/-- What a built-in command does. -/
def named? (e : Engine) (name : List Char) : Option (List (List Char) → Run Nat) :=
  special? e (String.ofList name) <|> regular? e (String.ofList name)

end Builtin
end Shell
end Autograder
