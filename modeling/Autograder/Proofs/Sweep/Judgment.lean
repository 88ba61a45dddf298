/-
# What makes a sweep correct and timely

The two judgments, without the walk along the outcomes by which they are made. A sweep is correct
if there are outcomes and each of them is (`correct_assess_iff`). The steps are those between
neighbouring outcomes of which both were measured (`steps_eq`), and one of them that is too slow is
enough to make the sweep untimely (`timely_assess_iff`).
-/

import Autograder.Sweep

namespace Autograder

theorem EstimateRange.contains_iff {r : EstimateRange} {x : Float} :
    r.contains x = true ↔ r.low ≤ x ∧ x ≤ r.high := by
  rw [contains, Bool.and_eq_true, decide_eq_true_iff, decide_eq_true_iff]

theorem StepKind.isTooSlow_iff {k : StepKind} :
    k.isTooSlow = true ↔ k = .weakSpeedup ∨ k = .noSpeedup := by
  cases k <;> decide

/-- There is a step between two runs if the earlier one took any time. -/
theorem Step.between?_eq_some_iff {cores : Nat} {earlier later : Sample} {step : Step} :
    between? cores earlier later = some step ↔
      0.0 < earlier.seconds ∧ step = ⟨earlier.threads, later.threads,
        later.seconds / earlier.seconds,
        .classify (later.seconds / earlier.seconds) later.threads cores⟩ := by
  unfold between?
  split
  · rename_i h
    rw [Option.some.injEq]
    exact ⟨fun hs => ⟨h, hs.symm⟩, fun hs => hs.2.symm⟩
  · rename_i h
    constructor
    · intro hs
      cases hs
    · rintro ⟨hs, -⟩
      exact absurd hs h

namespace Sweep

/-- No step leads to a failed outcome. -/
@[simp]
theorem stepTo?_failed (cores : Nat) (earlier : Option Sample) (threads : Nat) (reason : String) :
    stepTo? cores (earlier, .failed threads reason) = none := by
  cases earlier <;> rfl

/-- The step between two neighbouring outcomes. -/
def stepBetween? (cores : Nat) (p : Outcome × Outcome) : Option Step :=
  stepTo? cores (p.1.sample?, p.2)

theorem withEarlier_eq_zip (earlier : Option Sample) (os : List Outcome) :
    withEarlier earlier os = (earlier :: os.map Outcome.sample?).zip os := by
  induction os generalizing earlier with
  | nil => rfl
  | cons o os ih => rw [withEarlier, ih, List.zip_cons_cons, List.map_cons]

/-- What the last of some outcomes measured, or what was measured before, if there are none. -/
def sampleAfter (earlier : Option Sample) : List Outcome → Option Sample
  | [] => earlier
  | o :: rest => sampleAfter o.sample? rest

/-- A second part of a sweep sees of the first its last outcome only. -/
theorem withEarlier_append (earlier : Option Sample) (before after : List Outcome) :
    withEarlier earlier (before ++ after) =
      withEarlier earlier before ++ withEarlier (sampleAfter earlier before) after := by
  induction before generalizing earlier with
  | nil => rfl
  | cons o before ih => rw [List.cons_append, withEarlier, withEarlier, ih, sampleAfter,
      List.cons_append]

theorem sampleAfter_concat (earlier : Option Sample) (os : List Outcome) (o : Outcome) :
    sampleAfter earlier (os ++ [o]) = o.sample? := by
  induction os generalizing earlier with
  | nil => rfl
  | cons first os ih => exact ih first.sample?

/-- What is gathered from each outcome and the run right before it is gathered from the pairs of
neighbours, if nothing is gathered where there is no run before. -/
theorem filterMap_withEarlier {β : Type} {f : Option Sample × Outcome → Option β}
    (hf : ∀ o, f (none, o) = none) (os : List Outcome) :
    (withEarlier none os).filterMap f =
      (os.zip os.tail).filterMap fun p => f (p.1.sample?, p.2) := by
  cases os with
  | nil => rfl
  | cons o os =>
    have hzip : withEarlier o.sample? os =
        ((o :: os).zip os).map fun p => (p.1.sample?, p.2) := by
      rw [withEarlier_eq_zip, ← List.map_cons, List.zip_map_left]
      rfl
    rw [withEarlier, List.filterMap_cons_none (hf o), hzip, List.filterMap_map]
    rfl

/-- **The steps are those between neighbouring outcomes**, in their order. -/
theorem steps_eq (cores : Nat) (os : List Outcome) :
    steps cores os = (os.zip os.tail).filterMap (stepBetween? cores) :=
  filterMap_withEarlier (fun _ => rfl) os

theorem stepBetween?_eq_some_iff {cores : Nat} {o o' : Outcome} {step : Step} :
    stepBetween? cores (o, o') = some step ↔
      ∃ s s', o = .measured s ∧ o' = .measured s' ∧ Step.between? cores s s' = some step := by
  constructor
  · intro h
    cases o with
    | failed threads reason => cases h
    | measured s =>
      cases o' with
      | failed threads reason => cases h
      | measured s' => exact ⟨s, s', rfl, rfl, h⟩
  · rintro ⟨s, s', rfl, rfl, h⟩
    exact h

/-- A step joins an outcome with the one right after it. -/
theorem mem_steps_iff {cores : Nat} {os : List Outcome} {step : Step} :
    step ∈ steps cores os ↔
      ∃ i s s', os[i]? = some (.measured s) ∧ os[i + 1]? = some (.measured s') ∧
        Step.between? cores s s' = some step := by
  rw [steps_eq, List.mem_filterMap]
  constructor
  · rintro ⟨⟨o, o'⟩, hmem, hstep⟩
    obtain ⟨s, s', rfl, rfl, hbetween⟩ := stepBetween?_eq_some_iff.1 hstep
    obtain ⟨i, hi⟩ := List.mem_iff_getElem?.1 hmem
    rw [List.getElem?_zip_eq_some, List.getElem?_tail] at hi
    exact ⟨i, s, s', hi.1, hi.2, hbetween⟩
  · rintro ⟨i, s, s', hi, hi', hbetween⟩
    refine ⟨(.measured s, .measured s'), ?_, hbetween⟩
    refine List.mem_iff_getElem?.2 ⟨i, ?_⟩
    rw [List.getElem?_zip_eq_some, List.getElem?_tail]
    exact ⟨hi, hi'⟩

variable {cores : Nat} {range : EstimateRange} {os : List Outcome}

/-- **A sweep is correct if it has outcomes, and each is a run with an estimate in the range.** -/
theorem correct_assess_iff :
    (assess cores range os).correct = true ↔
      os ≠ [] ∧ ∀ o ∈ os, o.isCorrect range = true := by
  cases os with
  | nil =>
    constructor
    · intro h
      cases h
    · rintro ⟨h, -⟩
      exact absurd rfl h
  | cons o os =>
    have hassess : (assess cores range (o :: os)).correct =
        (o :: os).all (Outcome.isCorrect range) := rfl
    rw [hassess, List.all_eq_true]
    exact ⟨fun h => ⟨List.cons_ne_nil o os, h⟩, fun h => h.2⟩

/-- **A sweep is timely if it has outcomes, and no step of it is too slow.** -/
theorem timely_assess_iff :
    (assess cores range os).timely = true ↔
      os ≠ [] ∧ ∀ step ∈ steps cores os, step.kind.isTooSlow = false := by
  cases os with
  | nil =>
    constructor
    · intro h
      cases h
    · rintro ⟨h, -⟩
      exact absurd rfl h
  | cons o os =>
    have hassess : (assess cores range (o :: os)).timely =
        (steps cores (o :: os)).all fun s => !s.kind.isTooSlow := rfl
    rw [hassess, List.all_eq_true]
    simp only [Bool.not_eq_true']
    exact ⟨fun h => ⟨List.cons_ne_nil o os, h⟩, fun h => h.2⟩

end Sweep
end Autograder
