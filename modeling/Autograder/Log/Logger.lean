/-
# Keeping the log

The lines of the log are written by a thread of its own: those that wait may be written now, later,
or at the end. A `Logger` is any way of doing so. It is told of what happens, and writes lines at
the end of files; which lines, to which files and when is its own matter. It has the time to write
between any two steps of the grader, and before and after each request to the subject; what comes up
in a test between two requests is written with the second of them.

`Logger.attach` is the subject with a log kept of its requests. The subject and the logger change
the same files in turn, so a log that is written to a file which a test reads has a part in that
test.
-/

import Autograder.Log
import Autograder.Log.Event
import Autograder.Subject

namespace Autograder
namespace Log

/-- How the log is to be kept: the filter of events, which a filter of the system's own comes
before, and whether its lines are JSON objects. -/
structure Setup where
  filter : String
  json : Bool

/-- The configured way of keeping the log. -/
def setup (c : Config) : Setup := ⟨if c.debug then "debug" else c.logLevel, c.useJson⟩

/-- A line for the end of what is at a place. -/
structure Line where
  place : Place
  text : String

/-- What a logger is told of. -/
inductive Happening where
  | event (e : Event)
  /-- A request is about to be made. -/
  | request (call : Call)
  /-- A request was answered. -/
  | answer (call : Call) (result : RunResult)
  /-- Nothing has happened. -/
  | pause

end Log

open Log

/-- A way of keeping the log, with a state of its own of type `τ`. -/
structure Logger (τ : Type) where
  start : τ
  /-- What is written after something has happened. -/
  write : Happening → Files → τ → List Line × τ

namespace Log

/-- A log that has a line for each event of the grader itself, which is written at once, as long as
the file is there. -/
def atOnce (setup : Setup) (place : Place) : Logger Unit where
  start := ()
  write happening fs _ :=
    let isOpen := (Device.at? place).isSome || (fs.node? place).isSome
    match happening with
    | .event e =>
      if isOpen && e.level.rank ≤ Level.rankOf setup.filter then ([⟨place, e.line⟩], ())
      else ([], ())
    | _ => ([], ())

/-- Writes lines one after the other. What is printed comes after what was printed before. -/
def writeLines : List Line → Files → String → Files × String
  | [], fs, printed => (fs, printed)
  | line :: rest, fs, printed =>
    let (fs, more) := fs.append line.place line.text
    writeLines rest fs (printed ++ more)

end Log

/-- The state of a subject, that of the logger, and all that was printed so far. -/
structure Logged (σ τ : Type) where
  subject : σ
  log : τ
  printed : String

namespace Logger

variable {σ τ : Type}

/-- Tells the logger of something, and has it write. -/
def note (l : Logger τ) (happening : Happening) (fs : Files) (s : Logged σ τ) :
    Files × Logged σ τ :=
  let fs := fs.drained
  let (lines, log) := l.write happening fs s.log
  let (fs, printed) := writeLines lines fs s.printed
  (fs, { s with log := log, printed := printed })

/-- Makes a request of a subject while the log is kept. -/
def ask (l : Logger τ) (call : Call) (answer : Files → σ → RunResult × Files × σ) (fs : Files)
    (s : Logged σ τ) : RunResult × Files × Logged σ τ :=
  let (fs, s) := l.note (.request call) fs s
  let (result, fs, state) := answer fs s.subject
  let (fs, s) := l.note (.answer call result) fs { s with subject := state }
  (result, fs, s)

/-- The subject, with a log kept of its requests. -/
def attach (l : Logger τ) (subject : Subject σ) : Subject (Logged σ τ) where
  build args := l.ask (.build args) (subject.build args)
  run program args limit := l.ask (.run program args limit) (subject.run program args limit)

end Logger

namespace Bench

variable {σ τ : Type}

/-- The bench of a subject of which a log is kept from now on. -/
def attach (b : Bench σ) (l : Logger τ) : Bench (Logged σ τ) :=
  ⟨b.files, ⟨b.state, l.start, ""⟩, b.calls⟩

/-- The bench of the subject itself. -/
def detach (b : Bench (Logged σ τ)) : Bench σ := ⟨b.files, b.state.subject, b.calls⟩

/-- The bench after the logger was told of something. -/
def note (b : Bench (Logged σ τ)) (l : Logger τ) (happening : Happening) : Bench (Logged σ τ) :=
  let (fs, state) := l.note happening b.files b.state
  { b with files := fs, state := state }

/-- The bench after a text was printed. -/
def print (b : Bench (Logged σ τ)) (text : String) : Bench (Logged σ τ) :=
  { b with state := { b.state with printed := b.state.printed ++ text } }

/-- The bench after a text was written to what is at a path. -/
def deliver (b : Bench (Logged σ τ)) (path text : String) :
    Except FileError (Bench (Logged σ τ)) :=
  (b.files.deliver path text).map fun (fs, printed) => { b with files := fs }.print printed

end Bench
end Autograder
