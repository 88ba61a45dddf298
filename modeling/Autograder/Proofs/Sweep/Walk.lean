/-
# A sweep, outcome by outcome

A walk along a sweep looks back at the run right before and no further. What an outcome adds to what
it has found is a matter of the outcome and of that run (`visit_eq`). So what the walk has found is,
after each outcome, all there is to find in those behind it (`Tells`), and at the end it is the
judgment of the sweep (`assess_eq_walk`).
-/

import Autograder.Proofs.Sweep.Remarks

namespace Autograder
namespace Sweep
namespace Walk

variable {cores : Nat} {range : EstimateRange} {seen : List Outcome} {w : Walk}

theorem checkEstimate_eq (range : EstimateRange) (s : Sample) (a : Assessment) :
    checkEstimate range s a =
      { a with
        correct := a.correct && range.contains s.estimate
        diagnostics := a.diagnostics ++
          if range.contains s.estimate then [] else [outsideLine range s] } := by
  unfold checkEstimate
  split <;> simp_all [Assessment.say]

theorem compareRuntime_eq (cores : Nat) (previous : Option Sample) (s : Sample) (a : Assessment) :
    compareRuntime cores previous s a =
      { a with
        timely := a.timely &&
          (stepTo? cores (previous, .measured s)).toList.all fun step => !step.kind.isTooSlow
        steps := a.steps ++ (stepTo? cores (previous, .measured s)).toList
        diagnostics := a.diagnostics ++
          (previous.map fun earlier => stepDiagnostic cores earlier s).toList } := by
  cases previous with
  | none => simp [compareRuntime, stepTo?]
  | some earlier =>
    have hstep : stepTo? cores (some earlier, .measured s) = Step.between? cores earlier s := rfl
    simp only [compareRuntime, hstep]
    cases Step.between? cores earlier s with
    | none => simp [Assessment.say]
    | some step => cases hslow : step.kind.isTooSlow <;> simp [Assessment.say, hslow]

/-- **What an outcome adds**, given the run right before. -/
theorem visit_eq (cores : Nat) (range : EstimateRange) (w : Walk) (o : Outcome) :
    w.visit cores range o =
      ⟨o.sample?,
        { correct := w.found.correct && o.isCorrect range
          timely := w.found.timely &&
            (stepTo? cores (w.previous, o)).toList.all fun step => !step.kind.isTooSlow
          steps := w.found.steps ++ (stepTo? cores (w.previous, o)).toList
          diagnostics := w.found.diagnostics ++ block cores range (w.previous, o) }⟩ := by
  cases o with
  | failed threads reason =>
    simp [visit, Assessment.say, block, Outcome.isCorrect, Outcome.sample?]
  | measured s =>
    rw [visit, compareRuntime_eq, checkEstimate_eq]
    simp [Assessment.say, block, Outcome.isCorrect, Outcome.sample?]

/-- What a walk has found is all there is to find in the outcomes it has seen. -/
structure Tells (cores : Nat) (range : EstimateRange) (seen : List Outcome) (w : Walk) : Prop where
  previous : w.previous = sampleAfter none seen
  correct : w.found.correct = seen.all (Outcome.isCorrect range)
  timely : w.found.timely = (steps cores seen).all fun step => !step.kind.isTooSlow
  steps : w.found.steps = steps cores seen
  diagnostics : w.found.diagnostics = (withEarlier none seen).flatMap (block cores range)

theorem tells_start (cores : Nat) (range : EstimateRange) : Tells cores range [] start :=
  ⟨rfl, rfl, rfl, rfl, rfl⟩

/-- **A walk that tells all goes on to tell all.** -/
theorem Tells.visit (h : Tells cores range seen w) (o : Outcome) :
    Tells cores range (seen ++ [o]) (w.visit cores range o) := by
  have hsteps : Sweep.steps cores (seen ++ [o]) =
      Sweep.steps cores seen ++ (stepTo? cores (w.previous, o)).toList := by
    rw [h.previous, Sweep.steps, withEarlier_append, List.filterMap_append]
    cases hstep : stepTo? cores (sampleAfter none seen, o) <;>
      simp [withEarlier, Sweep.steps, hstep]
  rw [visit_eq]
  constructor
  case previous => exact (sampleAfter_concat none seen o).symm
  case correct => simp [h.correct]
  case timely => simp [h.timely, hsteps]
  case steps => simp [h.steps, hsteps]
  case diagnostics => simp [h.diagnostics, h.previous, withEarlier_append, withEarlier]

/-- **A whole walk tells all.** -/
theorem Tells.foldl (h : Tells cores range seen w) (os : List Outcome) :
    Tells cores range (seen ++ os) (os.foldl (Walk.visit cores range) w) := by
  induction os generalizing seen w with
  | nil =>
    rw [List.append_nil]
    exact h
  | cons o os ih =>
    have hall := ih (h.visit o)
    rw [List.append_assoc] at hall
    exact hall

end Walk

/-- **What a walk along a sweep finds is its assessment.** -/
theorem assess_eq_walk (cores : Nat) (range : EstimateRange) {os : List Outcome} (hos : os ≠ []) :
    assess cores range os = (os.foldl (Walk.visit cores range) Walk.start).found := by
  have htells := (Walk.tells_start cores range).foldl os
  rw [List.nil_append] at htells
  rw [assess, if_neg (by simpa using hos), ← htells.correct, ← htells.timely, ← htells.steps,
    ← htells.diagnostics]

end Sweep
end Autograder
