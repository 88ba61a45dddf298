/-
# The state of a shell

What a script sees and changes while it runs, and the ways in which it can stop. Time is counted
and not measured: each command takes a little of it, and waiting takes as long as it says. A shell
that has used up its time is stopped. What several processes write to one stream is put in the order
of its times.
-/

import Autograder.Files.Tree
import Autograder.Shell.Command
import Autograder.Text.Lossy

namespace Autograder
namespace Shell

/-- The bytes of a text, each as the character of its number. -/
def bytesOf (s : String) : List Char := s.toUTF8.toList.map fun b => Char.ofNat b.toNat

/-- The bytes of a file, each as the character of its number. -/
def charsOf (bytes : ByteArray) : List Char := bytes.toList.map fun b => Char.ofNat b.toNat

/-- The bytes that some characters stand for. -/
def toBytes (s : List Char) : List UInt8 := s.map fun c => UInt8.ofNat c.toNat

/-- Bytes read as a text. -/
def toText (s : List Char) : String := Text.lossy (toBytes s)

/-- A variable, which may be declared without a value. Programs that are started see those that are
exported, and one that is fixed keeps its value. -/
structure Variable where
  name : List Char
  value : Option (List Char)
  exported : Bool
  fixed : Bool

/-- Where what is written goes to. -/
inductive Sink where
  | stream (number : Nat)
  /-- A file that was opened, by its number. -/
  | file (number : Nat)
  | nowhere
  /-- A device without any room. -/
  | full

/-- A file that was opened to write to it: at its end, or from a position on. -/
structure OpenFile where
  place : Place
  atEnd : Bool
  position : Nat

/-- What there is left to read, and when its end is there. What stands in a file can be read again
from where a reader wants to be. -/
structure Source where
  rest : List Char
  ending : Nat
  inFile : Bool
  /-- Why nothing can be read. -/
  fault : Option FileError

/-- What a stream of a command is connected with: the number of a source, from which several
streams may read in turn, and a sink. -/
structure Channel where
  source : Option Nat
  sink : Option Sink

/-- Something that a process wrote to a stream at a time. -/
structure Chunk where
  time : Nat
  process : Nat
  text : List Char

/-- A function. -/
structure Function where
  name : List Char
  body : Command

/-- What a function has to leave as it was: the variables that it has made its own, and the options
if it has done that to them. -/
structure Frame where
  vars : List (List Char × Option Variable)
  options : Option (List Char)

/-- A process that a shell does not wait for: when it ends and with which exit code or signal, and
which streams it may write to until then. -/
structure Job where
  process : Nat
  parent : Nat
  ending : Nat
  status : Nat
  signal : Option Nat
  holds : List Nat

/-- A signal on its way to a process, which it reaches at a time. -/
structure Sent where
  time : Nat
  process : Nat
  signal : Nat

/-- The state of a shell. -/
structure Machine where
  files : Files
  vars : List Variable
  functions : List Function
  /-- What the shell calls itself in messages. -/
  name : List Char
  /-- The command that messages are about, besides the shell. -/
  topic : Option (List Char)
  arguments : List (List Char)
  /-- The line of the script that is being run. -/
  line : Nat
  /-- The exit code of the last command. -/
  status : Nat
  /-- The exit code of the last command whose output stands in a word. -/
  inner : Nat
  /-- The exit code before a signal, while that is dealt with. -/
  outer : Option Nat
  channels : List (Nat × Channel)
  sources : Array Source
  opened : Array OpenFile
  /-- What was written to the streams, the last first. Stream 0 is the output and stream 1 the error
  output of the process. -/
  streams : Array (List Chunk)
  /-- Something could not be written. -/
  unwritten : Option FileError
  /-- The letters of the options that are switched on. -/
  options : List Char
  /-- The command that is being run may fail. -/
  tested : Bool
  /-- How many loops there are around the command. -/
  loops : Nat
  /-- What is done when a signal comes, by its number; 0 stands for the end of the script. -/
  traps : List (Nat × List Char)
  sent : List Sent
  /-- What the functions that are running have to leave as it was, the innermost first. -/
  frames : List Frame
  /-- The number of the process of the script. -/
  main : Nat
  /-- The number of this shell's own process. -/
  self : Nat
  /-- The numbers of the processes that wait for this one. -/
  above : List Nat
  /-- The number that the last process got. -/
  newest : Nat
  /-- The last job that was started. -/
  lastJob : Option Nat
  jobs : List Job
  /-- The streams that the process of a new job keeps open, once they are settled. -/
  holds : Option (List Nat)
  /-- The argument that `getopts` has come to, and the place in it. -/
  optionWord : Nat
  optionPlace : Option Nat
  aliases : List (List Char × List Char)
  /-- The permissions that new files do not get. -/
  mask : Nat
  /-- The time that was used up, in nanoseconds. -/
  clock : Nat
  /-- The time there is, in nanoseconds. -/
  limit : Nat

/-- Why a script stops before its end. -/
inductive Stop where
  | exit (status : Nat)
  /-- Something was wrong that a script does not go on after. -/
  | fault
  /-- The process has become another, which has ended. -/
  | gone (status : Nat)
  /-- A signal has ended the process. -/
  | signal (number : Nat)
  | timeUp
  /-- Some loops are left. -/
  | leave (loops : Nat)
  /-- Some loops are left but one, which goes on with its next turn. -/
  | again (loops : Nat)
  /-- A function ends. -/
  | back (status : Nat)

/-- A step of a shell. -/
abbrev Run := ExceptT Stop (StateM Machine)

/-- What a program does with its arguments in a process of its own. -/
abbrev Program := List (List Char) → Run Unit

/-- What runs scripts: their commands, texts of commands, and the programs that a process can
become. -/
structure Engine where
  exec : Command → Run Unit
  run : List Char → Run Unit
  /-- The program of a name. -/
  find : Machine → List Char → Except FileError Program

/-- An option is switched on. -/
def Machine.has (m : Machine) (letter : Char) : Bool := m.options.contains letter

/-- Sets the exit code. -/
def setStatus (status : Nat) : Run Unit := modify fun m => { m with status := status }

/-- The signals that do nothing to a process that does not deal with them. -/
def harmless : List Nat := [17, 18, 23, 28]

/-- The signals that no process can deal with. -/
def untrappable : List Nat := [9, 19]

/-- A signal ends the process. -/
def Machine.diesOf (m : Machine) (signal : Nat) : Bool :=
  untrappable.contains signal ||
    (m.traps.lookup signal).isNone && !harmless.contains signal && signal != 0

/-- The signals that reach the process until a time. -/
def Machine.due (m : Machine) (time : Nat) : List Sent :=
  m.sent.filter fun s => s.process == m.self && decide (s.time ≤ time)

/-- Waits until a time, unless a signal ends the process first. What comes too late is stopped. -/
def waitUntil (time : Nat) : Run Unit := do
  let m ← get
  match (m.due time).find? fun s => m.diesOf s.signal with
  | some s =>
    set { m with clock := max m.clock s.time }
    if m.limit ≤ s.time then throw .timeUp else throw (.signal s.signal)
  | none =>
    set { m with clock := max m.clock time }
    if m.limit ≤ max m.clock time then throw .timeUp

/-- Lets time pass. -/
def spend (nanoseconds : Nat) : Run Unit := do waitUntil ((← get).clock + nanoseconds)

/-- Bytes with others written over them from a position on. -/
def overwrite (old : ByteArray) (position : Nat) (new : ByteArray) : ByteArray :=
  let gap : ByteArray := ⟨Array.replicate (position - old.size) 0⟩
  old.extract 0 position ++ gap ++ new ++ old.extract (position + new.size) old.size

/-- Writes to a file that was opened. What was removed in the meantime stays away. -/
def writeToFile (m : Machine) (number : Nat) (s : List Char) : Machine :=
  match m.opened[number]? with
  | none => m
  | some f =>
    match m.files.node? f.place with
    | some (.file old _) =>
      let new : ByteArray := ⟨(toBytes s).toArray⟩
      let position := if f.atEnd then old.size else f.position
      { m with
        files := m.files.putBytes f.place (overwrite old position new)
        opened := m.opened.setIfInBounds number { f with position := position + new.size } }
    | _ => m

/-- Writes to a sink. -/
def writeTo (sink : Sink) (s : List Char) : Run Unit :=
  match sink with
  | .nowhere => pure ()
  | .full => modify fun m => { m with unwritten := some .noSpace }
  | .stream n => modify fun m =>
    { m with streams := m.streams.modify n fun old => ⟨m.clock, m.self, s⟩ :: old }
  | .file n => modify fun m => writeToFile m n s

/-- Writes to the stream of a number. Where there is none, that is noted. -/
def writeOn (stream : Nat) (s : List Char) : Run Unit := do
  match ((← get).channels.lookup stream).bind Channel.sink with
  | some sink => unless s.isEmpty do writeTo sink s
  | none => modify fun m => { m with unwritten := some .badDescriptor }

/-- Writes to the output. -/
def write (s : List Char) : Run Unit := writeOn 1 s

/-- Writes a line to the output. -/
def writeLine (s : List Char) : Run Unit := write (s ++ ['\n'])

/-- Writes a line to the error output. -/
def writeError (s : List Char) : Run Unit := do
  let before := (← get).unwritten
  writeOn 2 (s ++ ['\n'])
  modify fun m => { m with unwritten := before }

/-- What was written to a stream, in the order of the times. -/
def Machine.chunks (m : Machine) (stream : Nat) : List Chunk :=
  (m.streams.getD stream []).reverse.mergeSort fun a b => decide (a.time ≤ b.time)

/-- What was written to a stream. -/
def Machine.written (m : Machine) (stream : Nat) : List Char :=
  (m.chunks stream).flatMap Chunk.text

/-- A message of the shell itself, with its name, a line of the script, and the command that is
being run. -/
def complainAt (line : Nat) (message : List Char) : Run Unit := do
  let m ← get
  let topic := match m.topic with
    | some t => t ++ bytesOf ": "
    | none => []
  writeError (m.name ++ bytesOf (": " ++ toString line ++ ": ") ++ topic ++ message)

/-- A message of the shell itself on the line that is being run. -/
def complain (message : List Char) : Run Unit := do complainAt (← get).line message

/-- A fault that ends the script. -/
def giveUp {α : Type} (message : List Char) : Run α := do
  complain message
  throw .fault

/-- Does something as the command that messages are about. -/
def withTopic {α : Type} (topic : List Char) (act : Run α) : Run α := do
  let before := (← get).topic
  modify fun m => { m with topic := some topic }
  let result ← tryCatch (do pure (Except.ok (← act))) fun stop => pure (.error stop)
  modify fun m => { m with topic := before }
  match result with
  | .ok a => pure a
  | .error stop => throw stop

/-- A variable by its name. -/
def Machine.var? (m : Machine) (name : List Char) : Option Variable :=
  m.vars.find? fun v => v.name == name

/-- The value of a variable. -/
def Machine.value? (m : Machine) (name : List Char) : Option (List Char) :=
  (m.var? name).bind Variable.value

/-- The variables with one of them replaced. -/
def replaceVariable (v : Variable) (vs : List Variable) : List Variable :=
  v :: vs.filter fun w => w.name != v.name

/-- Gives a variable a value; one that is fixed ends the script. -/
def setVariable (name value : List Char) (exported : Bool) : Run Unit := do
  let m ← get
  let old := m.var? name
  if old.any Variable.fixed then giveUp (name ++ bytesOf ": is read only")
  else
    let isExported := exported || old.any Variable.exported || m.has 'a'
    set { m with vars := replaceVariable ⟨name, some value, isExported, false⟩ m.vars }
    if name = "OPTIND".toList then
      let word := Nat.ofDigitChars 10 (value.takeWhile Char.isDigit) 0
      modify fun m => { m with optionWord := max 1 word, optionPlace := none }

/-- Does something, and tells why it stopped if it did. -/
def attempt (act : Run Unit) : Run (Option Stop) :=
  tryCatch (do act; pure none) fun stop => pure (some stop)

/-- Does something and then something else, even if the first stops. -/
def andFinally (act after : Run Unit) : Run Unit := do
  let stop? ← attempt act
  after
  match stop? with
  | some stop => throw stop
  | none => pure ()

end Shell
end Autograder
