/-
# Running programs

The program under test as processes that are started in its directory. A program that is named with
a slash is a file, looked for from that directory; any other name is that of a program of the
system. A process has nothing to read, and is stopped when its time is up.
-/

import Autograder.Shell.Run
import Autograder.Suite.Settings

namespace Autograder

/-- How the program under test is built and run. -/
structure Workshop where
  /-- The directory of the subject. -/
  directory : String
  /-- The program that builds it. -/
  buildProgram : String
  /-- The time limit of a build, in nanoseconds. -/
  buildLimit : Nat

namespace Workshop

/-- The configured way of building and running. -/
def ofConfig (c : Config) : Workshop :=
  ⟨c.subjectDirectory, c.buildProgram, nanosecondsOf c.buildLimit⟩

/-- The time that starting a process takes, in nanoseconds. -/
def startTime : Nat := 1000000

/-- What stands for a program: a name with a slash is taken from the directory of the subject. -/
def resolve (w : Workshop) (fs : Files) (program : String) : String :=
  if program.toList.contains '/' then fs.absolute (Path.join w.directory program) else program

/-- The directory that a process is started in. -/
def start (w : Workshop) (fs : Files) : Except FileError Place := do
  match ← fs.find w.directory with
  | (place, .directory) => pure place
  | _ => .error .notADirectory

/-- What a program does with its arguments. The names of dots are those of directories. -/
def programOf (fs : Files) (program : String) : Except FileError Shell.Program :=
  let called := Shell.bytesOf program
  if program.toList.contains '/' then
    Shell.Program.atPath Shell.system fs Shell.Program.maxDepth called
  else
    match Shell.Program.system? Shell.system called program with
    | some act => .ok act
    | none => .error (if Files.isDots program then .permissionDenied else .notFound)

/-- The number of the first process. -/
def firstProcess : Nat := 1000

/-- The variables that a process starts with. -/
def environment : List Shell.Variable :=
  [("HOME", "/root"), ("PATH", String.ofList Shell.Program.usualPath)].map fun v =>
    ⟨Shell.bytesOf v.1, some (Shell.bytesOf v.2), true, false⟩

/-- The state in which a process starts: it has nothing to read, and its output and error output
are streams of their own. -/
def machine (fs : Files) (program : String) (limit : Nat) : Shell.Machine :=
  { files := fs
    vars := environment
    functions := []
    name := Shell.bytesOf program
    topic := none
    arguments := []
    line := 0
    status := 0
    inner := 0
    outer := none
    channels := [(0, ⟨some 0, none⟩), (1, ⟨none, some (.stream 0)⟩), (2, ⟨none, some (.stream 1)⟩)]
    sources := #[.ofText []]
    opened := #[]
    streams := #[[], []]
    unwritten := none
    options := []
    tested := false
    loops := 0
    traps := []
    sent := []
    frames := []
    main := firstProcess
    self := firstProcess
    above := []
    newest := firstProcess
    lastJob := none
    jobs := []
    holds := none
    optionWord := 1
    optionPlace := none
    aliases := []
    mask := 0o022
    clock := startTime
    limit := limit }

/-- What a process that ended leaves behind. -/
def outputOf (exitCode : Option Int) (m : Shell.Machine) : ProcessOutput :=
  { exitCode := exitCode
    stdout := Shell.toText (m.written 0)
    stderr := Shell.toText (m.written 1)
    elapsed := m.clock }

/-- What a process comes to that was stopped, or ended by itself. -/
def resultOf (program : String) (limit : Nat) (m : Shell.Machine) : Option Shell.Stop → RunResult
  | some .timeUp => .error (.timeout program limit)
  | some (.signal _) => .ok (outputOf none m)
  | _ => .ok (outputOf (some m.status) m)

/-- Runs a program to its end, and waits until nothing more can be written to its streams. -/
def runToEnd (act : Shell.Run Unit) (m : Shell.Machine) : Option Shell.Stop × Shell.Machine :=
  let run : Shell.Run (Option Shell.Stop) := do
    let stop? ← Shell.attempt do
      Shell.spend 0
      Shell.untilEnd Shell.system.run act
    match stop? with
    | some .timeUp => pure stop?
    | _ => do
      Shell.awaitWriters 0
      Shell.awaitWriters 1
      pure stop?
  match run.run.run m with
  | (.ok stop?, m) => (stop?, m)
  | (.error stop, m) => (some stop, m)

/-- A name or argument with a zero byte cannot be given to a process. -/
def hasZeroByte (s : String) : Bool := s.toList.contains '\x00'

/-- Runs a program with its arguments for as long as there is time. -/
def execute (w : Workshop) (fs : Files) (program : String) (args : List String) (limit : Nat) :
    RunResult × Files :=
  if (w.directory :: program :: args).any hasZeroByte then
    (.error (.spawn program "nul byte found in provided data"), fs)
  else
    let resolved := w.resolve fs program
    match w.start fs with
    | .error e => (.error (.spawn program e.message), fs)
    | .ok place =>
      let inside := { fs with here := place }
      match programOf inside resolved with
      | .error e => (.error (.spawn program e.message), fs)
      | .ok act =>
        let act := act (args.map Shell.bytesOf)
        let (stop?, m) := runToEnd act (machine inside resolved limit)
        (resultOf program limit m stop?, { m.files with here := fs.here }.drained)

/-- The subject that is built and run by starting programs. -/
def subject (w : Workshop) : Subject Unit where
  build args fs _ :=
    let (result, fs) := w.execute fs w.buildProgram args w.buildLimit
    (result, fs, ())
  run program args limit fs _ :=
    let (result, fs) := w.execute fs program args limit
    (result, fs, ())

end Workshop
end Autograder
