/-
# The parallel pi test

For each thread count the estimator is built and run once, and the last word of its output is taken
for its estimate. A run that fails spoils the sweep but does not end it; a build that fails ends it.
-/

import Autograder.Number.Reader
import Autograder.Suite.Build
import Autograder.Sweep
import Autograder.Text.Quoted
import Autograder.Verdict

namespace Autograder

/-- The settings of the parallel pi test. -/
structure PiSettings where
  threadCounts : List Nat
  points : Nat
  range : EstimateRange
  cores : Nat
  /-- The time limit of a run, in nanoseconds. -/
  runLimit : Nat
  debug : Bool

namespace PiSettings

/-- The compiler flags for a number of threads. -/
def flags (s : PiSettings) (threads : Nat) : String :=
  "-DNUM_THREADS=" ++ toString threads ++ " -DNUM_POINTS=" ++ toString s.points ++ " -DDEBUG=" ++
    Suite.switch s.debug

end PiSettings

namespace Suite

/-- The target and the program of the test. -/
def piTarget : String := "pi"

@[inherit_doc piTarget]
def piProgram : String := "./pi"

/-- The estimate that an output ends with. -/
def estimate? (stdout : String) : Option Float :=
  (Text.lastWord? stdout.toList).bind Number.read?

/-- What became of a run with some number of threads. -/
def outcome (threads : Nat) (result : RunResult) : Outcome :=
  match judgeable result with
  | .error reason => .failed threads reason
  | .ok o =>
    match estimate? o.stdout with
    | some x => .measured ⟨threads, o.seconds, x⟩
    | none =>
      .failed threads ("no numeric estimate in output " ++ Text.quoted (Text.trimmed o.stdout))

/-- What a sweep came to: remarks on the cleanings, the outcomes of the runs, and the build failure
that cut it short. -/
structure Swept where
  warnings : List Diagnostic
  outcomes : List Outcome
  failure? : Option Diagnostic

/-- Builds and runs the estimator for each of the thread counts. -/
def sweep {σ : Type} (subject : Subject σ) (settings : PiSettings) :
    List Nat → Bench σ → Swept × Bench σ
  | [], b => (⟨[], [], none⟩, b)
  | threads :: rest, b =>
    let (built, b) := build subject (settings.flags threads) piTarget b
    match built.failure? with
    | some failure => (⟨built.warnings, [], some failure⟩, b)
    | none =>
      let (result, b) := b.run subject piProgram [] settings.runLimit
      let (swept, b) := sweep subject settings rest b
      (⟨built.warnings ++ swept.warnings, outcome threads result :: swept.outcomes,
        swept.failure?⟩, b)

/-- The verdict on a sweep. -/
def judgeSweep (settings : PiSettings) (swept : Swept) : Verdict :=
  match swept.failure? with
  | some failure => .failed .pi (swept.warnings ++ [failure])
  | none =>
    let a := Sweep.assess settings.cores settings.range swept.outcomes
    let closing := if a.correct then []
      else [.failure "Something doesn't look good with the estimates"]
    .judge .pi a.correct a.timely (swept.warnings ++ a.diagnostics ++ closing)

/-- The parallel pi test. -/
def runPi {σ : Type} (subject : Subject σ) (settings : PiSettings) (b : Bench σ) :
    Verdict × Bench σ :=
  let (swept, b) := sweep subject settings settings.threadCounts b
  (judgeSweep settings swept, b)

end Suite
end Autograder
