/-
# Processes of a shell

A shell runs commands in processes below it: it waits for subshells, and goes on beside its jobs. A
job is run to its end at once; its times tell what of that comes before and after what the shell
itself does. Signals reach a process at a time, and are dealt with between its commands.
-/

import Autograder.Shell.Machine

namespace Autograder
namespace Shell

/-- The signals that have names, and their numbers. -/
def signals : List (String × Nat) :=
  [("HUP", 1), ("INT", 2), ("QUIT", 3), ("ILL", 4), ("TRAP", 5), ("ABRT", 6), ("BUS", 7),
    ("FPE", 8), ("KILL", 9), ("USR1", 10), ("SEGV", 11), ("USR2", 12), ("PIPE", 13), ("ALRM", 14),
    ("TERM", 15), ("CHLD", 17), ("CONT", 18), ("STOP", 19), ("TSTP", 20), ("TTIN", 21),
    ("TTOU", 22), ("URG", 23), ("XCPU", 24), ("XFSZ", 25), ("VTALRM", 26), ("PROF", 27),
    ("WINCH", 28), ("IO", 29), ("PWR", 30), ("SYS", 31)]

/-- The largest number of a signal. -/
def lastSignal : Nat := 64

/-- The name of a signal: 0 stands for the end of the shell. -/
def signalName (n : Nat) : List Char :=
  match signals.find? fun s => s.2 == n with
  | some s => s.1.toList
  | none =>
    let digits (n : Nat) : List Char := if n = 0 then [] else '+' :: Nat.toDigits 10 n
    let fromEnd (n : Nat) : List Char := if n = 0 then [] else '-' :: Nat.toDigits 10 n
    if n = 0 then "EXIT".toList
    else if 34 ≤ n && n < 50 then "RTMIN".toList ++ digits (n - 34)
    else if 50 ≤ n && n ≤ lastSignal then "RTMAX".toList ++ fromEnd (lastSignal - n)
    else Nat.toDigits 10 n

/-- The signal that a text gives by its number or name. -/
def signalOf? (s : List Char) : Option Nat :=
  if !s.isEmpty && s.all Char.isDigit then
    let n := Nat.ofDigitChars 10 s 0
    if n ≤ lastSignal then some n else none
  else (List.range (lastSignal + 1)).find? fun n => signalName n == s.map Char.toUpper

/-- What is said of a process that a signal ended. -/
def endedBy? : Nat → Option String
  | 1 => some "Hangup"
  | 3 => some "Quit"
  | 4 => some "Illegal instruction"
  | 5 => some "Trace/breakpoint trap"
  | 6 => some "Aborted"
  | 7 => some "Bus error"
  | 8 => some "Floating point exception"
  | 9 => some "Killed"
  | 10 => some "User defined signal 1"
  | 11 => some "Segmentation fault"
  | 12 => some "User defined signal 2"
  | 14 => some "Alarm clock"
  | 15 => some "Terminated"
  | 24 => some "CPU time limit exceeded"
  | 25 => some "File size limit exceeded"
  | 26 => some "Virtual timer expired"
  | 27 => some "Profiling timer expired"
  | 29 => some "I/O possible"
  | 30 => some "Power failure"
  | 31 => some "Bad system call"
  | n => if 34 ≤ n && n ≤ lastSignal then some ("Real-time signal " ++ toString (n - 34)) else none

/-- Deals with a signal that has reached the shell. -/
def dealWith (run : List Char → Run Unit) (signal : Nat) : Run Unit := do
  let m ← get
  if m.diesOf signal then throw (.signal signal)
  else
    match m.traps.lookup signal with
    | some script => do
      set { m with outer := some m.status }
      run script
      modify fun n => { n with status := m.status, outer := m.outer }
    | none => pure ()

/-- Deals with the signals that have reached the shell by now. -/
def settle (run : List Char → Run Unit) : Run Unit := do
  let m ← get
  match m.due m.clock with
  | [] => pure ()
  | due => do
    set { m with sent := m.sent.filter fun s => s.process != m.self || decide (m.clock < s.time) }
    for s in due do dealWith run s.signal

/-- Runs a script until it ends, which includes what it has asked to be done at its end. -/
def untilEnd (run : List Char → Run Unit) (act : Run Unit) : Run Unit := do
  let stop? ← attempt act
  match stop? with
  | some (.gone n) => setStatus n
  | some (.signal n) => throw (.signal n)
  | some .timeUp => throw .timeUp
  | _ => do
    match stop? with
    | some (.exit n) | some (.back n) => setStatus n
    | some .fault => setStatus 2
    | _ => pure ()
    let m ← get
    match m.traps.lookup 0 with
    | some script => do
      set { m with
        traps := m.traps.filter fun t => t.1 != 0
        outer := some m.status
        topic := none }
      match ← attempt (run script) with
      | none => setStatus m.status
      | some (.exit n) | some (.gone n) | some (.back n) => setStatus n
      | some .fault => setStatus 2
      | some (.leave _) | some (.again _) => setStatus m.status
      | some stop => throw stop
    | none => pure ()

/-- Runs something in a process of its own: what it does to files and streams, what it reads, and
the time it takes stay; all else is as before. What stops it is a signal, or that time is up. -/
def separately (run : List Char → Run Unit) (act : Run Unit) : Run Unit := do
  let before ← get
  set { before with
    self := before.newest + 1
    newest := before.newest + 1
    above := before.self :: before.above
    traps := before.traps.filter fun t => t.1 != 0 && t.2.isEmpty }
  let stop? ← attempt (untilEnd run act)
  modify fun m =>
    { before with
      files := { m.files with here := before.files.here }
      status := m.status
      sources := m.sources
      opened := m.opened
      streams := m.streams
      newest := m.newest
      jobs := m.jobs
      holds := m.holds
      sent := m.sent
      clock := m.clock }
  match stop? with
  | some stop => throw stop
  | none => pure ()

/-- Something that is done in a process that the shell waits for: a signal ends only that. -/
def asChild (act : Run Unit) : Run Unit := do
  match ← attempt act with
  | none => pure ()
  | some (.signal n) => do
    match endedBy? n with
    | some message => writeError (bytesOf message)
    | none => pure ()
    setStatus (128 + n)
  | some stop => throw stop

/-- Runs something in a subshell. -/
def inSubshell (run : List Char → Run Unit) (act : Run Unit) : Run Unit :=
  asChild (separately run act)

/-- Waits for the jobs that can still write to a stream. -/
def awaitWriters (stream : Nat) : Run Unit := do
  for job in (← get).jobs do
    if job.holds.contains stream then waitUntil job.ending

/-- Runs something in a subshell, and returns what it writes to its output and why it was stopped if
it was. -/
def collect (run : List Char → Run Unit) (act : Run Unit) : Run (List Chunk × Option Stop) := do
  let before ← get
  let n := before.streams.size
  set { before with
    streams := before.streams.push []
    channels := (1, ⟨none, some (.stream n)⟩) :: before.channels.filter fun c => c.1 != 1 }
  let stop? ← attempt (do inSubshell run act; awaitWriters n)
  let m ← get
  set { m with channels := before.channels, streams := m.streams.take n }
  pure (m.chunks n, stop?)

/-- Runs something in a subshell and returns what it writes to its output. -/
def capture (run : List Char → Run Unit) (act : Run Unit) : Run (List Char) := do
  let tested := (← get).tested
  modify fun m => { m with tested := false }
  let printed ← collect run act
  modify fun m => { m with tested := tested }
  match printed with
  | (chunks, none) => pure (chunks.flatMap Chunk.text)
  | (_, some stop) => throw stop

/-- Adds something to be read, and returns its number. -/
def addSource (s : Source) : Run Nat := do
  let m ← get
  set { m with sources := m.sources.push s }
  pure m.sources.size

/-- The channels with one of them replaced. -/
def setChannel (stream : Nat) (c : Channel) (cs : List (Nat × Channel)) : List (Nat × Channel) :=
  (stream, c) :: cs.filter fun d => d.1 != stream

/-- How much can be written ahead of what is read. -/
def pipeRoom : Nat := 65536

/-- The time at which the first of two processes in a pipeline ends, or why it is stopped: when it
writes after the second has ended, or far more than that has read, it ends. -/
def writerEnding (chunks : List Chunk) (stop? : Option Stop) (ending readerEnding unread : Nat) :
    Except Stop Nat :=
  match chunks.find? fun c => decide (readerEnding ≤ c.time) with
  | some c => .ok c.time
  | none =>
    if pipeRoom < unread then .ok readerEnding
    else
      match stop? with
      | some stop => .error stop
      | none => .ok ending

/-- A pipeline of two: time passes for both at once. -/
def pipeline (run : List Char → Run Unit) (left right : Run Unit) : Run Unit := do
  let before ← get
  let (chunks, stop?) ← collect run left
  let ending := (← get).clock
  let n ← addSource ⟨chunks.flatMap Chunk.text, ending, false, none⟩
  modify fun m => { m with
    clock := before.clock
    channels := setChannel 0 ⟨some n, none⟩ m.channels }
  andFinally (inSubshell run right) (modify fun m => { m with channels := before.channels })
  let m ← get
  let unread := ((m.sources[n]?.map Source.rest).getD []).length
  match writerEnding chunks stop? ending m.clock unread with
  | .ok time => set { m with clock := max m.clock time }
  | .error stop => throw stop

/-- The streams that some channels lead to. -/
def streamsOf (cs : List (Nat × Channel)) : List Nat :=
  cs.filterMap fun c =>
    match c.2.sink with
    | some (.stream n) => some n
    | _ => none

/-- Starts a job. It has nothing to read, and time goes on from its start. The streams that it keeps
open are those of the shell, unless its command `settles` others. -/
def startJob (run : List Char → Run Unit) (settles : Bool) (act : Run Unit) : Run Unit := do
  let before ← get
  let n ← addSource ⟨[], 0, false, none⟩
  modify fun m => { m with
    channels := setChannel 0 ⟨some n, none⟩ m.channels
    tested := false
    holds := if settles then none else some (streamsOf m.channels) }
  let stop? ← attempt (separately run act)
  modify fun m =>
    let signal := match stop? with
      | some (.signal n) => some n
      | _ => none
    let status := match signal with
      | some n => 128 + n
      | none => m.status
    let holds := m.holds.getD (streamsOf before.channels)
    { m with
      channels := before.channels
      tested := before.tested
      status := 0
      clock := before.clock
      holds := before.holds
      lastJob := some (before.newest + 1)
      jobs := m.jobs ++ [⟨before.newest + 1, before.self, m.clock, status, signal, holds⟩] }

/-- Ends a job by a signal at a time: what it would have written later is not there. -/
def Machine.endJob (m : Machine) (process signal time : Nat) : Machine :=
  let isGone (c : Chunk) : Bool := c.process == process && decide (time < c.time)
  { m with
    jobs := m.jobs.map fun j =>
      if j.process = process then
        { j with ending := time, status := 128 + signal, signal := some signal }
      else j
    streams := m.streams.map (List.filter (!isGone ·)) }

/-- Sends a signal to a process, and tells whether there is such a process. -/
def sendSignal (run : List Char → Run Unit) (signal process : Nat) : Run Bool := do
  let m ← get
  let time := m.clock
  let isAbove := process = m.main || m.above.contains process
  if process = m.self || isAbove then do
    let s : Sent := ⟨time, process, signal⟩
    set { m with sent := m.sent ++ [s] }
    if process = m.self && m.diesOf signal then settle run
    pure true
  else
    match m.jobs.find? fun j => j.process == process && decide (time < j.ending) with
    | some _ => do
      unless signal = 0 || harmless.contains signal do set (m.endJob process signal time)
      pure true
    | none => pure false

end Shell
end Autograder
