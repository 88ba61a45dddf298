/-
# The rules of a sweep

A sweep is judged on a walk along its outcomes, and what the walk comes to can be told from the
outcomes and their neighbours (`assess_by_rules`). Whether a step leads from one outcome to the
next, and which, is a matter of the two alone (`ruledStep?`):

| earlier | later | step |
| --- | --- | --- |
| measured, took some time | measured | by the later runtime divided by the earlier |
| measured, took no time | measured | none |
| failed | any | none |
| any | failed | none |

So a failed outcome cuts a sweep in two: no step leads from what was before it to what comes after
(`steps_append_failed`).
-/

import Autograder.Proofs.Sweep.Increasing
import Autograder.Proofs.Sweep.Walk

namespace Autograder

theorem Outcome.isCorrect_iff {range : EstimateRange} {o : Outcome} :
    o.isCorrect range = true ↔
      ∃ s, o = .measured s ∧ range.low ≤ s.estimate ∧ s.estimate ≤ range.high := by
  cases o with
  | measured s =>
    constructor
    · intro h
      exact ⟨s, rfl, EstimateRange.contains_iff.1 h⟩
    · rintro ⟨s', hs, hin⟩
      cases hs
      exact EstimateRange.contains_iff.2 hin
  | failed threads reason =>
    constructor
    · intro h
      cases h
    · rintro ⟨s, hs, -⟩
      cases hs

namespace Sweep

/-- The step from an outcome to the one right after it. -/
def ruledStep? (cores : Nat) : Outcome × Outcome → Option Step
  | (.measured earlier, .measured later) =>
    if 0.0 < earlier.seconds then
      some
        { fromThreads := earlier.threads
          toThreads := later.threads
          ratio := later.seconds / earlier.seconds
          kind := .classify (later.seconds / earlier.seconds) later.threads cores }
    else none
  | (.failed _ _, _) | (_, .failed _ _) => none

theorem stepBetween?_eq_ruledStep? (cores : Nat) (p : Outcome × Outcome) :
    stepBetween? cores p = ruledStep? cores p := by
  obtain ⟨o, o'⟩ := p
  cases o with
  | measured s => cases o' <;> rfl
  | failed threads reason => cases o' <;> rfl

/-- **No step leads over a failed outcome.** -/
theorem steps_append_failed (cores : Nat) (before : List Outcome) (threads : Nat)
    (reason : String) (after : List Outcome) :
    steps cores (before ++ .failed threads reason :: after) =
      steps cores before ++ steps cores after := by
  rw [steps, withEarlier_append, withEarlier, List.filterMap_append,
    List.filterMap_cons_none (stepTo?_failed ..)]
  rfl

/-- **The rules by which a sweep is judged.** A walk along its outcomes judges it so: it is correct
if it has outcomes and each is a run with an estimate in the range. Its steps are, in order, those
that the rules give for its pairs of neighbours, none of which leads over a failed outcome. It is
timely if it has outcomes and no step of it has too little speedup. -/
theorem assess_by_rules (cores : Nat) (range : EstimateRange) (os : List Outcome) :
    (os ≠ [] → assess cores range os = (os.foldl (Walk.visit cores range) Walk.start).found) ∧
      ((assess cores range os).correct = true ↔
        os ≠ [] ∧ ∀ o ∈ os, ∃ s, o = .measured s ∧
          range.low ≤ s.estimate ∧ s.estimate ≤ range.high) ∧
      (assess cores range os).steps = (os.zip os.tail).filterMap (ruledStep? cores) ∧
      (∀ before threads reason after, os = before ++ .failed threads reason :: after →
        (assess cores range os).steps =
          (assess cores range before).steps ++ (assess cores range after).steps) ∧
      ((assess cores range os).timely = true ↔
        os ≠ [] ∧ ∀ step ∈ (assess cores range os).steps,
          step.kind ≠ .weakSpeedup ∧ step.kind ≠ .noSpeedup) := by
  refine ⟨assess_eq_walk cores range, ?_, ?_, ?_, ?_⟩
  · rw [correct_assess_iff]
    simp only [Outcome.isCorrect_iff]
  · rw [steps_assess, steps_eq, funext (stepBetween?_eq_ruledStep? cores)]
  · rintro before threads reason after rfl
    rw [steps_assess, steps_assess, steps_assess, steps_append_failed]
  · rw [timely_assess_iff, steps_assess]
    simp only [← Bool.not_eq_true, StepKind.isTooSlow_iff, not_or, ne_eq]

end Sweep
end Autograder
