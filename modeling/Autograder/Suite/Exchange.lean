/-
# The message exchange test

The program under test is built, given a workload file, and run once. Its output is correct if each
client received exactly the payloads that the file sends to it, in any order. The file is read back
before the run, so the grader and the program under test start from the same text.
-/

import Autograder.Buckets.Mismatch
import Autograder.Buckets.Output
import Autograder.Corpus.File
import Autograder.Suite.Artifacts
import Autograder.Suite.Build
import Autograder.Verdict
import Autograder.Workload.File

namespace Autograder

/-- Where the workload comes from. -/
inductive WorkloadSource where
  /-- A file that is used as it is. -/
  | existing (path : String)
  /-- A file that a random workload is written to. -/
  | generated (path : String) (seed : UInt64) (corpus : Corpus)

/-- The settings of the message exchange test. -/
structure ExchangeSettings where
  clients : Nat
  exchanges : Nat
  messages : Nat
  source : WorkloadSource
  /-- The time limit of a run, in nanoseconds. -/
  runLimit : Nat
  debug : Bool
  /-- The directory for what is kept of the exchange, if anything is. -/
  artifacts : Option String
  /-- What a program says in its error stream when it waits by looping. -/
  busyMarker : Option String

namespace ExchangeSettings

/-- The compiler flags. -/
def flags (s : ExchangeSettings) : String :=
  "-DN_EXCHANGES=" ++ toString s.exchanges ++ " -DN_CLIENTS=" ++ toString s.clients ++
    " -DDEBUG=" ++ Suite.switch s.debug

end ExchangeSettings

namespace Suite

/-- The target and the program of the test. -/
def exchangeTarget : String := "exchange"

@[inherit_doc exchangeTarget]
def exchangeProgram : String := "./exchange"

/-- A text begins with another. -/
def startsWith : List Char → List Char → Bool
  | _, [] => true
  | [], _ :: _ => false
  | c :: cs, d :: ds => c == d && startsWith cs ds

/-- A text has another somewhere in it. -/
def occursIn (needle : List Char) : List Char → Bool
  | [] => needle.isEmpty
  | c :: cs => startsWith (c :: cs) needle || occursIn needle cs

/-- The program said in its error stream that it waits by looping. -/
def saysBusy (marker : String) (o : ProcessOutput) : Bool :=
  occursIn marker.toList o.stderr.toList

/-- The program waited by looping, as far as there is a marker to tell. -/
def isBusy (marker : Option String) (o : ProcessOutput) : Bool :=
  match marker with
  | some m => saysBusy m o
  | none => false

/-- A workload file that is ready: its path, and what there is to say about it. -/
structure Prepared where
  path : String
  note : Diagnostic

/-- Gets the workload file ready. -/
def prepare {ρ : Type} (dice : SeededDice ρ) (s : ExchangeSettings) (fs : Files) :
    Except WorkloadError Prepared × Files :=
  match s.source with
  | .existing path => (.ok ⟨path, .info ("Using workload file " ++ path)⟩, fs)
  | .generated path seed corpus =>
    match Workload.generate? dice.toDice corpus s.clients s.messages (dice.ofSeed seed) with
    | none => (.error .noClients, fs)
    | some w =>
      match w.write fs path with
      | .error e => (.error e, fs)
      | .ok fs =>
        (.ok ⟨path, .info ("Generated " ++ toString w.length ++ " messages for " ++
          toString s.clients ++ " clients (seed " ++ toString seed.toNat ++ ")")⟩, fs)

/-- Keeps what there is of a run that ended, if a directory is set for it. What cannot be kept is
only remarked on. -/
def keep (s : ExchangeSettings) (expected : BucketSet) (result : RunResult) (fs : Files) :
    List Diagnostic × Files :=
  match s.artifacts, result with
  | some directory, .ok o =>
    match Artifacts.write fs directory o.stdout o.stderr expected with
    | (.ok _, fs) => ([], fs)
    | (.error e, fs) =>
      ([.warning ("could not write artifacts to " ++ directory ++ ": " ++ e.message)], fs)
  | _, _ => ([], fs)

/-- Said of an output in which payloads are missing or repeated. -/
def mismatchLine : String :=
  "Something is not right! Some messages seem to be missing or repeated?"

/-- Said of a program that waits by looping. -/
def busyLine : String :=
  "But you are looping those is_free/is_full functions a lot! Geez, the CPU is so busy ;)"

/-- The verdict on an output, after what has been said already. -/
def judgeOutput (s : ExchangeSettings) (expected : BucketSet) (said : List Diagnostic)
    (o : ProcessOutput) : Verdict :=
  match BucketSet.readOutput s.clients o.stdout with
  | .error e =>
    .failed .exchange (said ++ [.failure ("Unreadable output: " ++ e.outputMessage s.clients)])
  | .ok actual =>
    match BucketSet.firstMismatch? expected actual with
    | some mismatch =>
      .failed .exchange (said ++ [.failure mismatchLine, .failure mismatch.message])
    | none =>
      let busy := isBusy s.busyMarker o
      let praise : Diagnostic := .info ("Looks good :) " ++ toString actual.total ++
        " messages delivered to " ++ toString s.clients ++ " clients")
      .judge .exchange true (!busy) (said ++ (praise :: if busy then [.warning busyLine] else []))

/-- The verdict on a run, after what has been said already. -/
def judgeRun (s : ExchangeSettings) (expected : BucketSet) (said : List Diagnostic)
    (result : RunResult) : Verdict :=
  match judgeable result with
  | .error reason => .failed .exchange (said ++ [.failure ("Error running exchange: " ++ reason)])
  | .ok o => judgeOutput s expected said o

/-- Runs the program under test on a workload file and judges the run. -/
def exchangeOn {σ : Type} (subject : Subject σ) (s : ExchangeSettings) (path : String)
    (w : Workload) (said : List Diagnostic) (b : Bench σ) : Verdict × Bench σ :=
  let expected := BucketSet.ofWorkload s.clients w
  let (result, b) := b.run subject exchangeProgram [b.files.absolute path] s.runLimit
  let (remarks, files) := keep s expected result b.files
  (judgeRun s expected (said ++ remarks) result, { b with files := files })

/-- The message exchange test of a subject that has been built. -/
def exchangeBuilt {σ ρ : Type} (subject : Subject σ) (dice : SeededDice ρ) (s : ExchangeSettings)
    (said : List Diagnostic) (b : Bench σ) : Verdict × Bench σ :=
  match prepare dice s b.files with
  | (.error e, files) =>
    (.failed .exchange (said ++ [.failure ("Could not prepare workload: " ++ e.message)]),
      { b with files := files })
  | (.ok prepared, files) =>
    let b := { b with files := files }
    let said := said ++ [prepared.note]
    match Workload.load b.files s.clients prepared.path with
    | .error e => (.failed .exchange (said ++ [.failure ("Bad workload: " ++ e.message)]), b)
    | .ok w => exchangeOn subject s prepared.path w said b

/-- The message exchange test. -/
def runExchange {σ ρ : Type} (subject : Subject σ) (dice : SeededDice ρ) (s : ExchangeSettings)
    (b : Bench σ) : Verdict × Bench σ :=
  let (built, b) := build subject s.flags exchangeTarget b
  match built.failure? with
  | some failure => (.failed .exchange (built.warnings ++ [failure]), b)
  | none => exchangeBuilt subject dice s built.warnings b

end Suite
end Autograder
