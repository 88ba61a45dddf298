/-
# Programs

The programs that a process can become: those of the system, which are shells and utilities, and
files that say in their first line which program is to run them. A name without a slash is looked
for in some directories.
-/

import Autograder.Shell.Builtin.Processes
import Autograder.Shell.Utility

namespace Autograder
namespace Shell

namespace Program

/-- The time that it takes to start a program, in nanoseconds. -/
def startTime : Nat := 1000000

/-- The directories in which programs are looked for, if nothing else is said. -/
def usualPath : List Char := bytesOf "/usr/local/sbin:/usr/local/bin:/usr/sbin:/usr/bin:/sbin:/bin"

/-- The variables that a shell starts with, besides those that are exported to it. -/
def ownVariables (parent : Nat) (fs : Files) : List Variable :=
  let own (name : String) (value : List Char) : Variable := ⟨bytesOf name, some value, false, false⟩
  [own "IFS" [' ', '\t', '\n'], own "OPTIND" ['1'], own "PATH" usualPath,
    own "PPID" (Nat.toDigits 10 parent), own "PS1" ['#', ' '], own "PS2" ['>', ' '],
    own "PS4" ['+', ' '], ⟨bytesOf "PWD", some (bytesOf fs.herePath), true, false⟩]

/-- What is exported to a shell stays as it is, but for what every shell sets anew. -/
def isSetAnew (name : List Char) : Bool :=
  ["IFS", "OPTIND", "PPID", "PWD"].any fun s => s.toList == name

/-- The variables of a shell at its start. -/
def startVariables (m : Machine) : List Variable :=
  let own := ownVariables (m.above.headD 1) m.files
  let given := m.vars.filter fun v => v.exported && v.value.isSome && !isSetAnew v.name
  let given := given.map fun v => { v with fixed := false }
  given ++ own.filter fun v => given.all fun w => w.name != v.name

/-- The process goes on as a shell with a name and arguments. -/
def enterShell (name : List Char) (arguments : List (List Char)) : Run Unit :=
  modify fun m =>
    { m with
      name := name
      topic := none
      arguments := arguments
      line := 0
      status := 0
      inner := 0
      outer := none
      vars := startVariables m
      functions := []
      options := []
      tested := false
      loops := 0
      frames := []
      main := m.self
      lastJob := none
      optionWord := 1
      optionPlace := none
      aliases := [] }

/-- The script in a file. -/
def scriptIn (path : List Char) : Run (List Char) := do
  match (← get).files.find (toText path) with
  | .ok (_, .file bytes _) => pure (charsOf bytes)
  | .ok (_, .directory) => pure []
  | .error e => do
    let reason := if e == .notFound || e == .notADirectory then "No such file" else e.reason
    giveUp (bytesOf "cannot open " ++ path ++ bytesOf (": " ++ reason))

/-- A shell with its arguments: a script in an argument or in a file, or what is to be read. -/
def shell (e : Engine) (called : List Char) : Program := fun args => do
  enterShell called []
  let rest ← Builtin.setOptionsUpTo "cls" (args.length + 1) args
  let given := (args.take (args.length - rest.length)).filter fun a => a.head? == some '-'
  let rest := match rest with
    | ['-', '-'] :: r | ['-'] :: r => r
    | r => r
  if given.any (·.contains 'c') then
    match rest with
    | [] => giveUp (bytesOf "-c requires an argument")
    | script :: args => do
      modify fun m => { m with name := args.headD called, arguments := args.drop 1 }
      e.run script
  else
    match rest, given.any (·.contains 's') with
    | path :: args, false => do
      let script ← scriptIn path
      modify fun m => { m with name := path, arguments := args }
      e.run script
    | args, _ => do
      modify fun m => { m with arguments := args }
      match ← Utility.takeInput with
      | .ok script => e.run script
      | .error _ => pure ()

/-- A program is a shell. -/
def isShell (name : String) : Bool := name == "sh" || name == "dash" || name == "bash"

/-- The exit code of a utility that could not write. -/
def unwrittenStatus (name : String) : Nat :=
  match name with
  | "ls" | "sort" | "diff" | "cmp" | "grep" => 2
  | "sed" => 4
  | _ => 1

/-- What a utility has written has to be written. -/
def checkWritten (name : String) : Run Unit := do
  match (← get).unwritten with
  | some e => do
    Utility.report name (bytesOf ("write error: " ++ e.reason))
    setStatus (unwrittenStatus name)
  | none => pure ()

/-- A utility as a program. -/
def ofUtility (name : String) (act : List (List Char) → Run Nat) : Program := fun args => do
  modify fun m => { m with unwritten := none }
  setStatus (← act args)
  checkWritten name

/-- The program of the system with a name, started as `called`. -/
def system? (e : Engine) (called : List Char) (name : String) : Option Program :=
  if isShell name then some (shell e called) else (Utility.named? e name).map (ofUtility name)

/-- The name of the program at a path, if it is one of the system. -/
def systemName? (path : List Char) : Option String :=
  match path, (Path.names (toText path)).reverse with
  | '/' :: _, [name, "bin"] | '/' :: _, [name, "bin", "usr"] => some name
  | _, _ => none

/-- The program that a file wants to be run by, with the argument that it adds. -/
def interpreter? : List Char → Option (List Char × List (List Char))
  | '#' :: '!' :: r =>
    let line := (r.takeWhile (· != '\n')).dropWhile isBlank
    let path := line.takeWhile (!isBlank ·)
    let argument := (line.drop path.length).dropWhile isBlank
    let argument := (argument.reverse.dropWhile isBlank).reverse
    if path.isEmpty then none else some (path, if argument.isEmpty then [] else [argument])
  | _ => none

/-- The bytes of the program at a path. -/
def bytesIn (fs : Files) (path : List Char) : Except FileError (List Char) := do
  match ← fs.find (toText path) with
  | (_, .file bytes true) => pure (charsOf bytes)
  | _ => .error .permissionDenied

/-- The program at a path, which is one of the system or says which other one runs it. -/
def atPath (e : Engine) (fs : Files) : (depth : Nat) → (path : List Char) → Except FileError Program
  | 0, _ => .error .tooManyLinks
  | depth + 1, path =>
    match (systemName? path).bind (system? e path) with
    | some act => .ok act
    | none => do
      match interpreter? (← bytesIn fs path) with
      | none => .error .notAProgram
      | some (interpreter, extra) => do
        let act ← atPath e fs depth interpreter
        pure fun args => act (extra ++ path :: args)

/-- How many programs can run each other. -/
def maxDepth : Nat := 5

/-- The program at a path, where a file that does not say what runs it is run by a shell. -/
def launch (e : Engine) (fs : Files) (path : List Char) : Except FileError Program :=
  match atPath e fs maxDepth path with
  | .error .notAProgram => .ok fun args => shell e path (path :: args)
  | result => result

/-- The paths at which a program may be. -/
def candidates (m : Machine) (name : List Char) : List (List Char) :=
  (Builtin.splitAt ':' ((m.value? "PATH".toList).getD usualPath)).map fun directory =>
    if directory.isEmpty then name else directory ++ '/' :: name

/-- There is something at a path that may be a program. -/
def isThere (fs : Files) (path : List Char) : Bool :=
  let isKnown (name : String) : Bool := isShell name || Utility.isThere name
  match systemName? path with
  | some name => isKnown name
  | none =>
    match fs.find (toText path) with
    | .ok (_, .file _ _) => true
    | _ => false

/-- The path of a program. A name without a slash is looked for; a directory is not what is looked
for, but it makes a difference. -/
def path? (m : Machine) (name : List Char) : Except FileError (List Char) :=
  if name.contains '/' then .ok name
  else
    let paths := candidates m name
    match paths.find? (isThere m.files) with
    | some path => .ok path
    | none =>
      if name.isEmpty || paths.any fun p => m.files.isDirectory (toText p) then .error .isADirectory
      else .error .notFound

/-- The program of a name. Programs of the system are called by their names alone. -/
def named (e : Engine) (m : Machine) (name : List Char) : Except FileError Program := do
  let path ← path? m name
  match if name.contains '/' then none else (systemName? path).bind (system? e name) with
  | some act => pure act
  | none => launch e m.files path

end Program
end Shell
end Autograder
