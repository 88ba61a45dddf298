/-
# Processes, signals and places

The built-in commands that wait for jobs, send signals and say what is done when one comes, those
that leave loops, functions and the shell, and those that show and change where the shell is.
-/

import Autograder.Shell.Builtin.Variables

namespace Autograder
namespace Shell
namespace Builtin

/-- What `kill` says of how it is used. -/
def killUsage : String :=
  "Usage: kill [-s sigspec | -signum | -sigspec] [pid | job]... or\nkill -l [exitstatus]"

/-- The jobs of the shell, in the order of their start. -/
def ownJobs (m : Machine) : List Job := m.jobs.filter fun j => j.parent == m.self

/-- The job that is called by a percent sign and its number among those of the shell, or by another
percent sign for the last. -/
def jobCalled (name : List Char) : Run Job := do
  let jobs := ownJobs (← get)
  let found := match name.drop 1 with
    | [] | ['%'] | ['+'] => jobs.getLast?
    | ['-'] => jobs.dropLast.getLast?
    | digits =>
      if digits.all Char.isDigit then
        match Nat.ofDigitChars 10 digits 0 with
        | 0 => none
        | n + 1 => jobs[n]?
      else none
  match found with
  | some j => pure j
  | none => giveUp (bytesOf "No such job: " ++ name)

/-- Shows the signal of a number, or of the exit code of a process that it ended. -/
def showSignal (s : List Char) : Run Nat := do
  let n ← number s
  let signal := if 128 < n then n - 128 else n
  if 0 < signal && signal ≤ lastSignal then
    writeLine (signalName signal)
    pure 0
  else giveUp (bytesOf "invalid signal number or exit status: " ++ s)

/-- Sends a signal to some processes. -/
def killEach (e : Engine) (signal : Nat) : List (List Char) → Run Nat
  | [] => pure 0
  | p :: ps => do
    let isThere ← match p with
      | '%' :: _ => do
        let _ ← jobCalled p
        pure false
      | '-' :: p => do
        let _ ← number p
        pure false
      | p => do
        let n ← number p
        let self := (← get).self
        sendSignal e.run signal (if n = 0 then self else n)
    unless isThere do complain (bytesOf "No such process\n")
    let rest ← killEach e signal ps
    pure (if isThere then rest else 1)

/-- Sends a signal to processes: the one that asks them to end, if no other is given. -/
def kill (e : Engine) (args : List (List Char)) : Run Nat := do
  let start : Option Nat := match args with
    | ('-' :: s) :: _ => signalOf? s
    | _ => none
  match start, args with
  | some _, [_] | _, [] => giveUp (bytesOf killUsage)
  | some signal, _ :: ps => killEach e signal ps
  | none, args => do
    let (os, ps) ← switches "l" "s" args
    if isOn 'l' os then
      match ps with
      | [] => do
        writeLine ['0']
        for n in List.range lastSignal do writeLine (signalName (n + 1))
        pure 0
      | s :: _ => showSignal s
    else
      match os.lookup 's', ps with
      | some s, ps =>
        match signalOf? s with
        | some signal => if ps.isEmpty then giveUp (bytesOf killUsage) else killEach e signal ps
        | none => giveUp (bytesOf "invalid signal number or name: " ++ s)
      | none, [] => giveUp (bytesOf killUsage)
      | none, ps => killEach e 15 ps

/-- A signal that the shell deals with has reached it before a time. -/
def isInterrupted (m : Machine) (time : Nat) : Option Sent :=
  (m.due time).find? fun s => !((m.traps.lookup s.signal).getD []).isEmpty

/-- The time after which it is known that a process has ended without being asked. -/
def noticed : Nat := 5000000

/-- Waits for a job, and comes to its exit code. -/
def waitForJob (j : Job) : Run Nat := do
  let m ← get
  match isInterrupted m j.ending with
  | some s =>
    if s.time + noticed < j.ending then do
      waitUntil s.time
      return 128 + s.signal
  | none => pure ()
  waitUntil j.ending
  match j.signal.bind endedBy? with
  | some message => if m.clock < j.ending + noticed then writeError (bytesOf message)
  | none => pure ()
  pure j.status

/-- Waits for the jobs with some numbers. -/
def waitForEach : (status : Nat) → List (List Char) → Run Nat
  | status, [] => pure status
  | _, name :: rest => do
    let m ← get
    match name with
    | '%' :: _ => do
      let j ← jobCalled name
      waitForEach (← waitForJob j) rest
    | name => do
      let n ← number name
      match (ownJobs m).find? fun j => j.process == n with
      | some j => do waitForEach (← waitForJob j) rest
      | none => waitForEach 127 rest

/-- Waits for jobs: all of them, if none is given. -/
def wait (args : List (List Char)) : Run Nat := do
  let (_, names) ← switches "" "" args
  if names.isEmpty then
    let m ← get
    let ending := (ownJobs m).foldl (fun t j => max t j.ending) 0
    match isInterrupted m ending with
    | some s =>
      if s.time + noticed < ending then
        waitUntil s.time
        return 128 + s.signal
    | none => pure ()
    waitUntil ending
    pure 0
  else waitForEach 127 names

/-- What a job is doing at a time. -/
def jobState (j : Job) (time : Nat) : List Char :=
  if time < j.ending then bytesOf "Running"
  else
    match j.signal.bind endedBy? with
    | some message => bytesOf message
    | none =>
      if j.status = 0 then bytesOf "Done"
      else bytesOf "Done(" ++ decimal j.status ++ [')']

/-- Shows the jobs, the last first. -/
def jobs (args : List (List Char)) : Run Nat := do
  let (os, _) ← switches "lp" "" args
  let m ← get
  let all := ownJobs m
  for (j, i) in all.zipIdx.reverse do
    let mark := if i + 1 = all.length then '+' else if i + 2 = all.length then '-' else ' '
    let state := jobState j m.clock
    let padding := List.replicate (27 - state.length) ' '
    if isOn 'p' os then writeLine (decimal j.process)
    else
      let process := if isOn 'l' os then decimal j.process ++ [' '] else []
      writeLine ('[' :: decimal (i + 1) ++ [']', ' ', mark, ' '] ++ process ++ state ++ padding)
  set { (← get) with
    jobs := m.jobs.filter fun j => j.parent != m.self || decide (m.clock < j.ending) }
  pure 0

/-- A job is brought to the front, which needs a terminal. -/
def toFront (args : List (List Char)) : Run Nat := do
  match args with
  | [] => giveUp (bytesOf "No current job")
  | name :: _ => giveUp (bytesOf "No such job: " ++ name)

/-- Says what is done when signals come, or shows that. -/
def trap (args : List (List Char)) : Run Nat := do
  let (_, args) ← switches "" "" args
  match args with
  | [] => do
    let ordered := (← get).traps.mergeSort fun a b => decide (a.1 ≤ b.1)
    for (signal, script) in ordered do
      writeLine (bytesOf "trap -- " ++ inQuotes script ++ ' ' :: signalName signal)
    pure 0
  | first :: rest => do
    let isReset := rest.isEmpty || (!first.isEmpty && first.all Char.isDigit)
    let script := if isReset || first = ['-'] then none else some first
    for name in if isReset then args else rest do
      match signalOf? name with
      | none => do
        writeError (bytesOf "trap: " ++ name ++ bytesOf ": bad trap")
        return 1
      | some signal => modify fun m =>
        let others := m.traps.filter fun t => t.1 != signal
        { m with traps := (script.map fun s => (signal, s)).toList ++ others }
    pure 0

/-- Leaves loops, as far as there are any. -/
def leaveLoops (reason : Nat → Stop) (args : List (List Char)) : Run Nat := do
  let n ← numberOr 1 args
  if n = 0 then giveUp (bytesOf "Illegal number: " ++ (args.headD []))
  let loops := (← get).loops
  if loops = 0 then pure 0 else throw (reason (min n loops))

/-- Ends the shell. -/
def exit (args : List (List Char)) : Run Nat := do
  let m ← get
  let n ← numberOr (m.outer.getD m.status) args
  throw (.exit (n % 256))

/-- Ends a function. -/
def return_ (args : List (List Char)) : Run Nat := do
  let m ← get
  let n ← numberOr (m.outer.getD m.status) args
  throw (.back n)

/-- Sets the variables that tell where the shell is, and goes there. -/
def goTo (place : Place) : Run Unit := do
  let m ← get
  let before := (m.value? "PWD".toList).getD (bytesOf m.files.herePath)
  modify fun m => { m with files := { m.files with here := place } }
  setVariable "OLDPWD".toList before true
  setVariable "PWD".toList (bytesOf (← get).files.herePath) true

/-- Goes to a directory: the home directory if none is given, and the last one for a dash. -/
def cd (args : List (List Char)) : Run Nat := do
  let (_, args) ← switches "LP" "" args
  let m ← get
  let back := args.head? == some ['-']
  let path := match args with
    | [] => (m.value? "HOME".toList).getD []
    | path :: _ =>
      if back then (m.value? "OLDPWD".toList).getD (bytesOf m.files.herePath) else path
  if path.isEmpty then pure 0
  else
    match m.files.find (toText path) with
    | .ok (place, .directory) => do
      goTo place
      if back then writeLine (bytesOf (← get).files.herePath)
      pure 0
    | _ => giveUp (bytesOf "can't cd to " ++ path)

/-- Shows the current directory. -/
def pwd (args : List (List Char)) : Run Nat := do
  let _ ← switches "LP" "" args
  writeLine (bytesOf (← get).files.herePath)
  pure 0

/-- A number in octal, in so many digits at least. -/
def octalDigits (width n : Nat) : List Char :=
  let ds := Nat.toDigits 8 n
  List.replicate (width - ds.length) '0' ++ ds

/-- The permissions that a mask leaves, as letters. -/
def symbolicMask (mask : Nat) : List Char :=
  let letters (shift : Nat) : List Char :=
    (if mask / (4 * shift) % 2 = 0 then ['r'] else []) ++
      (if mask / (2 * shift) % 2 = 0 then ['w'] else []) ++
      (if mask / shift % 2 = 0 then ['x'] else [])
  "u=".toList ++ letters 64 ++ ",g=".toList ++ letters 8 ++ ",o=".toList ++ letters 1

/-- The bits of a permission for everybody. -/
def permissionBits (c : Char) : Nat :=
  match c with
  | 'r' => 0o444
  | 'w' => 0o222
  | 'x' => 0o111
  | _ => 0

/-- The bits of somebody's permissions. -/
def ownerBits (c : Char) : Nat :=
  match c with
  | 'u' => 0o700
  | 'g' => 0o070
  | 'o' => 0o007
  | _ => 0o777

/-- The permissions after a change that is written in letters, such as `u+x`. -/
def changeMode? (mode : Nat) (change : List Char) : Option Nat :=
  let who := change.takeWhile "ugoa".toList.contains
  let owners := if who.isEmpty then 0o777 else who.foldl (fun n c => n ||| ownerBits c) 0
  match change.drop who.length with
  | op :: letters =>
    let bits := letters.foldl (fun n c => n ||| permissionBits c) 0 &&& owners
    if !letters.all "rwxXst".toList.contains then none
    else
      match op with
      | '+' => some (mode ||| bits)
      | '-' => some (mode - (mode &&& bits))
      | '=' => some ((mode - (mode &&& owners)) ||| bits)
      | _ => none
  | [] => none

/-- The permissions after changes that are separated by commas. -/
def changeModes? (mode : Nat) (changes : List (List Char)) : Option Nat :=
  changes.foldl (fun mode? change => mode?.bind fun mode => changeMode? mode change) (some mode)

/-- A text cut at a character. -/
def splitAt (c : Char) (s : List Char) : List (List Char) :=
  s.foldr (fun d fields =>
    if d = c then [] :: fields
    else
      match fields with
      | f :: fs => (d :: f) :: fs
      | [] => [[d]]) [[]]

/-- Shows or sets the permissions that new files do not get. -/
def umask (args : List (List Char)) : Run Nat := do
  let (os, args) ← switches "S" "" args
  let m ← get
  match args with
  | [] => writeLine (if isOn 'S' os then symbolicMask m.mask else octalDigits 4 m.mask)
  | mode :: _ =>
    let octal := !mode.isEmpty && mode.all fun c => '0' ≤ c && c ≤ '7'
    if octal then set { m with mask := Nat.ofDigitChars 8 mode 0 % 512 }
    else if mode.head?.any Char.isDigit then giveUp (bytesOf "Illegal number: " ++ mode)
    else
      match changeModes? (0o777 - m.mask) (splitAt ',' mode) with
      | some n => set { m with mask := 0o777 - n }
      | none => giveUp (bytesOf "Illegal mode: " ++ mode)
  pure 0

/-- Shows limits: there are none. -/
def ulimit (args : List (List Char)) : Run Nat := do
  let (_, args) ← switches "HSatfdscmlpnvwr" "" args
  match args with
  | [] => writeLine (bytesOf "unlimited")
  | s :: _ =>
    unless s.all Char.isDigit || s = "unlimited".toList do giveUp (bytesOf "bad number")
  pure 0

/-- Shows how much time the processors took. -/
def times : Run Nat := do
  writeLine (bytesOf "0m0.000000s 0m0.000000s")
  writeLine (bytesOf "0m0.000000s 0m0.000000s")
  pure 0

end Builtin
end Shell
end Autograder
