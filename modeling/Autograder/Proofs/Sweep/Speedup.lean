/-
# A timely sweep is faster

A step within the cores is too slow if its ratio is 0.7 or more (`isTooSlow_classify_iff`). A ratio
that is not a number is neither that nor less, so it does not make a sweep untimely: what a timely
sweep comes to is that no such ratio is 0.7 or more (`timely_measured_iff`).

| earlier runtime | later runtime | ratio |
| --- | --- | --- |
| finite and above zero | a number | a number |
| infinite | finite | zero |
| infinite | infinite | not a number |
| above zero | not a number | not a number |
-/

import Autograder.Number.Reader
import Autograder.Proofs.Number.Quotient
import Autograder.Proofs.Sweep.Increasing

namespace Autograder

/-- What is too slow is not below the smaller bound: the greater one only tells how slow it is. -/
theorem StepKind.isTooSlow_classify_iff {ratio : Float} {threads cores : Nat} :
    (classify ratio threads cores).isTooSlow = true ↔ threads ≤ cores ∧ speedupRatio ≤ ratio := by
  have hbounds : 1.0 ≤ ratio → speedupRatio ≤ ratio := Number.le_trans (by decide)
  unfold classify
  split_ifs with hwithin hone hweak
  · exact iff_of_true rfl ⟨hwithin, hbounds hone⟩
  · exact iff_of_true rfl ⟨hwithin, hweak⟩
  · exact iff_of_false Bool.false_ne_true fun h => hweak h.2
  · exact iff_of_false Bool.false_ne_true fun h => hwithin h.1
  · exact iff_of_false Bool.false_ne_true fun h => hwithin h.1

/-- A ratio is 0.7 or more, or below, or not a number. -/
theorem not_speedupRatio_le_iff {ratio : Float} :
    ¬ speedupRatio ≤ ratio ↔ ratio < 0.7 ∨ ratio.isNaN = true := by
  have hnumber : ¬ speedupRatio.isNaN = true := by decide
  rw [Number.not_le_iff, or_iff_left hnumber]
  rfl

namespace Sweep

variable {cores : Nat} {samples : List Sample}

/-- A step of a sweep in which all is measured joins two neighbours. -/
theorem exists_samples_of_mem_steps {step : Step}
    (h : step ∈ steps cores (samples.map .measured)) :
    ∃ i earlier later, samples[i]? = some earlier ∧ samples[i + 1]? = some later ∧
      Step.between? cores earlier later = some step := by
  obtain ⟨i, s, s', hi, hi', hbetween⟩ := mem_steps_iff.1 h
  have hsample {j : Nat} {s : Sample}
      (hj : (samples.map Outcome.measured)[j]? = some (.measured s)) : samples[j]? = some s := by
    rw [List.getElem?_map, Option.map_eq_some_iff] at hj
    obtain ⟨s', hs', heq⟩ := hj
    cases heq
    exact hs'
  exact ⟨i, s, s', hsample hi, hsample hi', hbetween⟩

/-- Two runs have a ratio that is not a number if the later runtime is none or both are infinite. -/
theorem isNaN_ratio_iff {earlier later : Sample} {step : Step}
    (h : Step.between? cores earlier later = some step) :
    step.ratio.isNaN = true ↔ later.seconds.isNaN = true ∨
      later.seconds.isInf = true ∧ earlier.seconds.isInf = true := by
  obtain ⟨hpos, rfl⟩ := Step.between?_eq_some_iff.1 h
  exact Number.isNaN_div_iff hpos

/-- A step of a sweep is too slow if it is within the cores and its ratio is 0.7 or more. -/
theorem isTooSlow_eq_false_iff {os : List Outcome} {step : Step} (h : step ∈ steps cores os) :
    step.kind.isTooSlow = false ↔
      (step.toThreads ≤ cores → step.ratio < 0.7 ∨ step.ratio.isNaN = true) := by
  rw [kind_of_mem_steps h, ← Bool.not_eq_true, StepKind.isTooSlow_classify_iff, not_and,
    not_speedupRatio_le_iff]

/-- Finite runtimes have a ratio. -/
theorem isNaN_ratio_of_isFinite (hfinite : ∀ s ∈ samples, s.seconds.isFinite = true) {step : Step}
    (h : step ∈ steps cores (samples.map .measured)) : step.ratio.isNaN = false := by
  obtain ⟨i, earlier, later, -, hi', hbetween⟩ := exists_samples_of_mem_steps h
  obtain ⟨hpos, rfl⟩ := Step.between?_eq_some_iff.1 hbetween
  exact Number.isNaN_div_of_isFinite (hfinite later (List.mem_of_getElem? hi')) hpos

/-- **A timely sweep is faster, step by step**, as far as its runtimes have ratios. A sweep in which
all is measured is timely if each step within the cores has a ratio below 0.7, or one that is not a
number. The latter are those of a later runtime that is not a number and those of two infinite ones.
So where the runtimes are finite, the ratios are below 0.7. -/
theorem timely_measured_iff (cores : Nat) (range : EstimateRange) (samples : List Sample) :
    ((assess cores range (samples.map .measured)).timely = true ↔
        samples ≠ [] ∧ ∀ step ∈ (assess cores range (samples.map .measured)).steps,
          step.toThreads ≤ cores → step.ratio < 0.7 ∨ step.ratio.isNaN = true) ∧
      (∀ step ∈ (assess cores range (samples.map .measured)).steps,
        ∃ (i : Nat) (earlier later : Sample),
          samples[i]? = some earlier ∧ samples[i + 1]? = some later ∧
            step.fromThreads = earlier.threads ∧ step.toThreads = later.threads ∧
            step.ratio = later.seconds / earlier.seconds ∧
            (step.ratio.isNaN = true ↔ later.seconds.isNaN = true ∨
              later.seconds.isInf = true ∧ earlier.seconds.isInf = true)) ∧
      ((∀ s ∈ samples, s.seconds.isFinite = true) →
        (assess cores range (samples.map .measured)).timely = true →
        ∀ step ∈ (assess cores range (samples.map .measured)).steps,
          step.toThreads ≤ cores → step.ratio < 0.7) := by
  have htimely : (assess cores range (samples.map .measured)).timely = true ↔
      samples ≠ [] ∧ ∀ step ∈ steps cores (samples.map .measured),
        step.toThreads ≤ cores → step.ratio < 0.7 ∨ step.ratio.isNaN = true := by
    rw [timely_assess_iff]
    exact and_congr (not_congr List.map_eq_nil_iff)
      (forall₂_congr fun step hstep => isTooSlow_eq_false_iff hstep)
  rw [steps_assess]
  refine ⟨htimely, fun step hstep => ?_, fun hfinite h step hstep hwithin => ?_⟩
  · obtain ⟨i, earlier, later, hi, hi', hbetween⟩ := exists_samples_of_mem_steps hstep
    have hnan := isNaN_ratio_iff hbetween
    obtain ⟨-, rfl⟩ := Step.between?_eq_some_iff.1 hbetween
    exact ⟨i, earlier, later, hi, hi', rfl, rfl, rfl, hnan⟩
  · have hnumber := isNaN_ratio_of_isFinite hfinite hstep
    exact ((htimely.1 h).2 step hstep hwithin).resolve_right (Bool.eq_false_iff.1 hnumber)

/-- Two runs, the second of which took half the time. -/
theorem timely_measured_iff_two_runs :
    let samples : List Sample := [⟨1, 8.0, 3.141⟩, ⟨2, 4.0, 3.141⟩]
    let assessment := assess 4 ⟨3.14, 3.15⟩ (samples.map .measured)
    (∀ s ∈ samples, s.seconds.isFinite = true) ∧ assessment.timely = true ∧
      assessment.steps.length = 1 ∧
      ∀ step ∈ assessment.steps, step.toThreads ≤ 4 → step.ratio < 0.7 := by
  intro samples assessment
  have hfinite : ∀ s ∈ samples, s.seconds.isFinite = true := by decide
  have htimely : assessment.timely = true := by decide
  obtain ⟨-, -, hfaster⟩ := timely_measured_iff 4 ⟨3.14, 3.15⟩ samples
  exact ⟨hfinite, htimely, rfl, hfaster hfinite htimely⟩

/-- Two infinite runtimes have a ratio that is not a number, and their sweep is timely. -/
theorem timely_two_infinite_runtimes :
    let samples : List Sample := [⟨1, Number.infinity, 3.141⟩, ⟨2, Number.infinity, 3.141⟩]
    let assessment := assess 4 ⟨3.14, 3.15⟩ (samples.map .measured)
    assessment.timely = true ∧
      ¬ ∀ step ∈ assessment.steps, step.toThreads ≤ 4 → step.ratio < 0.7 := by
  intro samples assessment
  have hsteps : assessment.steps = [⟨1, 2, Number.nan, .speedup⟩] := rfl
  constructor
  · decide
  · rw [hsteps]
    intro h
    have hratio : Number.nan < 0.7 := h ⟨1, 2, Number.nan, .speedup⟩ List.mem_cons_self (by decide)
    exact absurd hratio (by decide)

end Sweep
end Autograder
