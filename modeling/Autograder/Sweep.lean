/-
# A sweep over thread counts

The estimator of pi is run with more and more threads. Two judgments are made of the outcomes:

* the sweep is *correct* if every run gave an estimate inside the acceptable range;
* it is *timely* if no step from one run to the next was a step without enough speedup.

A step compares a run with the one right before it. With no more threads than cores the runtime has
to fall below 0.7 of what it was; with more threads than cores a flat step is only remarked on.

| threads | ratio | step |
| --- | --- | --- |
| within the cores | below 0.7 | speedup |
| within the cores | from 0.7, below 1.0 | weak speedup |
| within the cores | from 1.0 | no speedup |
| beyond the cores | below 0.9 | oversubscribed |
| beyond the cores | from 0.9 | oversubscribed and flat |

A failed run is never compared with anything.
-/

import Autograder.Diagnostic
import Autograder.Number.Written

namespace Autograder

/-- The ratio from which a step within the cores is too slow. -/
def speedupRatio : Float := 0.7

/-- The ratio from which a step beyond the cores is remarked on. -/
def oversubscribedRatio : Float := 0.9

/-- The estimates that are accepted, both bounds included. -/
structure EstimateRange where
  low : Float
  high : Float

namespace EstimateRange

/-- The numbers that are no further from `target` than `tolerance`. -/
def around (target tolerance : Float) : EstimateRange := ⟨target - tolerance, target + tolerance⟩

/-- The number lies between the bounds; what is not a number does not. -/
def contains (r : EstimateRange) (x : Float) : Bool := decide (r.low ≤ x) && decide (x ≤ r.high)

/-- The range in words. -/
def text (r : EstimateRange) : String := "[" ++ plain r.low ++ ", " ++ plain r.high ++ "]"

end EstimateRange

/-- What a run measured. -/
structure Sample where
  threads : Nat
  seconds : Float
  estimate : Float

/-- What became of a run. -/
inductive Outcome where
  | measured (sample : Sample)
  | failed (threads : Nat) (reason : String)

namespace Outcome

/-- The number of threads of the run. -/
def threads : Outcome → Nat
  | .measured s => s.threads
  | .failed threads _ => threads

/-- What the run measured, unless it failed. -/
def sample? : Outcome → Option Sample
  | .measured s => some s
  | .failed _ _ => none

/-- The run gave an estimate inside the range. -/
def isCorrect (range : EstimateRange) : Outcome → Bool
  | .measured s => range.contains s.estimate
  | .failed _ _ => false

end Outcome

/-- The kinds of steps from one run to the next. -/
inductive StepKind where
  | speedup
  | weakSpeedup
  | noSpeedup
  | oversubscribed
  | oversubscribedFlat
  deriving DecidableEq, Repr

namespace StepKind

/-- The kind of a step by the ratio of the runtimes and the number of threads it leads to. -/
def classify (ratio : Float) (threads cores : Nat) : StepKind :=
  if threads ≤ cores then
    if 1.0 ≤ ratio then .noSpeedup else if speedupRatio ≤ ratio then .weakSpeedup else .speedup
  else if oversubscribedRatio ≤ ratio then .oversubscribedFlat
  else .oversubscribed

/-- Steps of this kind make a sweep untimely. -/
def isTooSlow : StepKind → Bool
  | .weakSpeedup | .noSpeedup => true
  | .speedup | .oversubscribed | .oversubscribedFlat => false

end StepKind

/-- A step from one run to the next. -/
structure Step where
  fromThreads : Nat
  toThreads : Nat
  ratio : Float
  kind : StepKind

namespace Step

/-- The step between two runs, unless the earlier took no time that a ratio could be taken of. -/
def between? (cores : Nat) (earlier later : Sample) : Option Step :=
  if 0.0 < earlier.seconds then
    let ratio := later.seconds / earlier.seconds
    some ⟨earlier.threads, later.threads, ratio, .classify ratio later.threads cores⟩
  else none

/-- The step in words. -/
def diagnostic (cores : Nat) (s : Step) : Diagnostic :=
  let head := toString s.fromThreads ++ " -> " ++ toString s.toThreads ++
    " threads: runtime ratio " ++ fixed 3 s.ratio
  match s.kind with
  | .speedup | .oversubscribed => .info (head ++ ", speedup ok")
  | .weakSpeedup =>
    .warning (head ++ ": faster, but not much (needs < " ++ plain speedupRatio ++ ")")
  | .noSpeedup => .failure (head ++ ": more threads not faster")
  | .oversubscribedFlat =>
    .warning (head ++ ": more threads not much faster; " ++ toString s.toThreads ++
      " threads on " ++ toString cores ++ " CPU cores, probably out of CPUs")

end Step

/-- The judgments of a sweep, its steps, and what there is to say about it. -/
structure Assessment where
  correct : Bool
  timely : Bool
  steps : List Step
  diagnostics : List Diagnostic

namespace Assessment

/-- The number of warnings. -/
def warnings (a : Assessment) : Nat :=
  (a.diagnostics.filter fun d => d.severity == .warning).length

/-- The assessment with one more line. -/
def say (a : Assessment) (d : Diagnostic) : Assessment :=
  { a with diagnostics := a.diagnostics ++ [d] }

end Assessment

namespace Sweep

/-- Each outcome with what the run right before it measured, if there was one and it did not fail.
The first outcome comes after `earlier`. -/
def withEarlier (earlier : Option Sample) : List Outcome → List (Option Sample × Outcome)
  | [] => []
  | o :: rest => (earlier, o) :: withEarlier o.sample? rest

/-- The step that leads to an outcome. -/
def stepTo? (cores : Nat) : Option Sample × Outcome → Option Step
  | (some earlier, .measured later) => Step.between? cores earlier later
  | _ => none

/-- What there is to say about the step from one run to the next. -/
def stepDiagnostic (cores : Nat) (earlier later : Sample) : Diagnostic :=
  match Step.between? cores earlier later with
  | some step => step.diagnostic cores
  | none =>
    .warning (toString earlier.threads ++ " -> " ++ toString later.threads ++
      " threads: previous runtime " ++ plain earlier.seconds ++ "s too small to compare")

/-- The line about a run that measured something. -/
def measuredLine (s : Sample) : Diagnostic :=
  .info (toString s.threads ++ " threads: executed in " ++ fixed 3 s.seconds ++ "s, estimate " ++
    plain s.estimate)

/-- The line about a run that failed. -/
def failedLine (threads : Nat) (reason : String) : Diagnostic :=
  .failure (toString threads ++ " threads: sample failed: " ++ reason)

/-- The line about an estimate outside the range. -/
def outsideLine (range : EstimateRange) (s : Sample) : Diagnostic :=
  .failure (toString s.threads ++ " threads: estimate " ++ plain s.estimate ++ " outside " ++
    range.text)

/-- What there is to say about an outcome, given what the run before it measured. -/
def block (cores : Nat) (range : EstimateRange) : Option Sample × Outcome → List Diagnostic
  | (_, .failed threads reason) => [failedLine threads reason]
  | (earlier, .measured s) =>
    measuredLine s :: ((if range.contains s.estimate then [] else [outsideLine range s]) ++
      (earlier.map fun e => stepDiagnostic cores e s).toList)

/-- The steps of a sweep. -/
def steps (cores : Nat) (outcomes : List Outcome) : List Step :=
  (withEarlier none outcomes).filterMap (stepTo? cores)

/-- The judgment of a sweep. A sweep without outcomes fails both ways. -/
def assess (cores : Nat) (range : EstimateRange) (outcomes : List Outcome) : Assessment :=
  if outcomes.isEmpty then ⟨false, false, [], [.failure "no samples collected"]⟩
  else
    { correct := outcomes.all (Outcome.isCorrect range)
      timely := (steps cores outcomes).all fun s => !s.kind.isTooSlow
      steps := steps cores outcomes
      diagnostics := (withEarlier none outcomes).flatMap (block cores range) }

/-! ## Outcome by outcome

The same judgment can be made on one walk along the outcomes, which looks back at the run right
before and no further. What is kept on the way:

| kept | after a measured run | after a failed one |
| --- | --- | --- |
| the run right before | this run | none |
| correct so far | unless its estimate is outside | no longer |
| timely so far | unless it is too slow after the run before | as before |
| steps | one more, if the run before took some time | as before |
| diagnostics | the run, the estimate outside, the step | the failure |
-/

/-- What is kept on a walk along a sweep: the run right before, and what is found so far. -/
structure Walk where
  previous : Option Sample
  found : Assessment

namespace Walk

/-- Before the first outcome, nothing is wrong yet. -/
def start : Walk := ⟨none, ⟨true, true, [], []⟩⟩

/-- The estimate of a run is held against the range. -/
def checkEstimate (range : EstimateRange) (s : Sample) (a : Assessment) : Assessment :=
  if range.contains s.estimate then a
  else { a.say (outsideLine range s) with correct := false }

/-- The runtime of a run is compared with that of the run right before, if there was one. -/
def compareRuntime (cores : Nat) (previous : Option Sample) (s : Sample) (a : Assessment) :
    Assessment :=
  match previous with
  | none => a
  | some earlier =>
    match Step.between? cores earlier s with
    | none => a.say (stepDiagnostic cores earlier s)
    | some step =>
      { a.say (stepDiagnostic cores earlier s) with
        timely := if step.kind.isTooSlow then false else a.timely
        steps := a.steps ++ [step] }

/-- The walk goes on by an outcome. -/
def visit (cores : Nat) (range : EstimateRange) (w : Walk) : Outcome → Walk
  | .failed threads reason =>
    ⟨none, { w.found.say (failedLine threads reason) with correct := false }⟩
  | .measured s =>
    ⟨some s, compareRuntime cores w.previous s (checkEstimate range s
      (w.found.say (measuredLine s)))⟩

end Walk
end Sweep
end Autograder
