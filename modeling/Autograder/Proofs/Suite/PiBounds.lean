/-
# Configurations that some program satisfies

With a loaded configuration whose bounds are both numbers, a program that prints the lower bound
with every number of threads gives a correct estimate each time, and only its speed is left to be
judged. With a bound that is not a number the test fails whatever the program does
(`satisfiable_runPi`), and yet such a configuration is loaded (`not_contains_low_under_nan`).

| bounds | range | test |
| --- | --- | --- |
| numbers, the upper one not below | holds the lower bound | can be passed |
| numbers, the upper one below | empty | not reached: the configuration is refused |
| one is not a number | empty | always failed |
-/

import Autograder.Proofs.Config.Bounds
import Autograder.Proofs.Suite.PiGrade
import Autograder.Proofs.Suite.PiSteps

namespace Autograder

/-- What makes an outcome correct is an estimate that the range holds. -/
theorem Outcome.exists_contains_of_isCorrect {range : EstimateRange} {o : Outcome}
    (h : o.isCorrect range = true) : ∃ x, range.contains x = true := by
  cases o with
  | failed threads reason => cases h
  | measured sample => exact ⟨sample.estimate, h⟩

namespace Suite

/-- The answer to a run that ends with exit code 0, and with this number as its last word. -/
def Prints (x : Float) (r : RunResult) : Prop :=
  ∃ o, r = .ok o ∧ o.success = true ∧ lastNumber? o = some x

variable {s : PiSettings} {log : List (Call × RunResult)} {swept : Swept} {x : Float}

/-- A run that prints a number of the range is accurate. -/
theorem Prints.isAccurate {range : EstimateRange} {r : RunResult} (h : Prints x r)
    (hx : range.contains x = true) : IsAccurate range r := by
  obtain ⟨o, hr, hsuccess, hlast⟩ := h
  exact ⟨o, x, hr, hsuccess, hlast, EstimateRange.contains_iff.1 hx⟩

/-- **Printing a number of the range is enough** for a sweep that goes to its end. -/
theorem Sweeps.isCorrect_of_prints (h : Sweeps s s.threadCounts log swept)
    (hnone : swept.failure? = none) (hx : s.range.contains x = true)
    (hprints : ∀ r ∈ runAnswers log, Prints x r) :
    ∀ o ∈ swept.outcomes, o.isCorrect s.range = true :=
  (h.forall_outcomes_iff hnone).2 fun r hr => (hprints r hr).isAccurate hx

/-- A sweep over some thread counts is not spoiled if it goes to its end and is correct. -/
theorem Sweeps.not_spoiled (h : Sweeps s s.threadCounts log swept) (hne : s.threadCounts ≠ [])
    (hnone : swept.failure? = none) (hcorrect : ∀ o ∈ swept.outcomes, o.isCorrect s.range = true) :
    ¬ Spoiled s log := by
  rw [h.spoiled_iff hnone, Bool.not_eq_false, Sweep.correct_assess_iff]
  refine ⟨fun hempty => hne ?_, hcorrect⟩
  rw [← h.map_threads_outcomes hnone, hempty, List.map_nil]

/-- **If the range holds nothing, every sweep is spoiled.** -/
theorem Sweeps.spoiled_of_empty_range (h : Sweeps s s.threadCounts log swept)
    (hrange : ¬ ∃ x, s.range.contains x = true) : Spoiled s log := by
  cases hfailure : swept.failure? with
  | some failure =>
    refine h.spoiled_of_cut ?_
    rw [hfailure]
    exact Option.some_ne_none failure
  | none =>
    rw [h.spoiled_iff hfailure, ← Bool.not_eq_true, Sweep.correct_assess_iff]
    rintro ⟨hne, hall⟩
    obtain ⟨o, ho⟩ := List.exists_mem_of_ne_nil _ hne
    exact hrange (Outcome.exists_contains_of_isCorrect (hall o ho))

/-- **When a loaded configuration can be satisfied.** Its lower bound is at most the upper one, its
range holds the lower bound, and it holds any number at all, all if and only if both bounds are
numbers; and they are if the text of the configuration sets neither to what is not a number. Then a
program whose targets are all made and whose runs all print the lower bound is correct with each
number of threads, and passes unless it lacks speedup. Otherwise no outcome of any program is
correct, and every program fails. -/
theorem satisfiable_runPi {c : Config} (h : c.Loaded) :
    (c.pi.low ≤ c.pi.high ↔ c.pi.range.HasBounds) ∧
      (c.pi.range.contains c.pi.low = true ↔ c.pi.range.HasBounds) ∧
      ((∃ x, c.pi.range.contains x = true) ↔ c.pi.range.HasBounds) ∧
      (∀ yaml, Config.ofYaml yaml = .ok c → (c.pi.range.HasBounds ↔
        ¬ Config.SetsToNaN yaml "acceptable_low" ∧ ¬ Config.SetsToNaN yaml "acceptable_high")) ∧
      ∀ {σ : Type} (subject : Subject σ) (cores : Nat) (b : Bench σ),
        let s := PiSettings.ofConfig c cores
        let log := Bench.log subject b (runPi subject s b).2
        let outcomes := (sweep subject s s.threadCounts b).1.outcomes
        (c.pi.range.HasBounds → firstUnmade? log = none →
          (∀ r ∈ runAnswers log, Prints c.pi.low r) →
            outcomes.map Outcome.threads = c.pi.threadCounts ∧
            (∀ o ∈ outcomes, o.isCorrect c.pi.range = true) ∧
            (¬ LacksSpeedup s log ∧ (runPi subject s b).1.grade = .pass ∨
              LacksSpeedup s log ∧ (runPi subject s b).1.grade = .partly)) ∧
        (¬ c.pi.range.HasBounds →
          (∀ o ∈ outcomes, o.isCorrect c.pi.range = false) ∧
            (runPi subject s b).1.grade = .fail) := by
  have hvalid := h.valid
  have horder : c.pi.low ≤ c.pi.high ↔ c.pi.range.HasBounds := hvalid.low_le_high_iff
  have hlow : c.pi.range.contains c.pi.low = true ↔ c.pi.range.HasBounds :=
    EstimateRange.contains_low_iff.trans horder
  have hany : (∃ x, c.pi.range.contains x = true) ↔ c.pi.range.HasBounds :=
    EstimateRange.exists_contains_iff.trans horder
  refine ⟨horder, hlow, hany, fun yaml => Config.hasBounds_iff_of_ofYaml, ?_⟩
  intro σ subject cores b s log outcomes
  have hsweeps : Sweeps s s.threadCounts log (sweep subject s s.threadCounts b).1 :=
    sweeps_runPi subject s b
  refine ⟨fun hbounds hmade hprints => ?_, fun hbounds => ⟨fun o _ => ?_, ?_⟩⟩
  · have hend := hsweeps.failure?_eq_none hmade
    have hcorrect := hsweeps.isCorrect_of_prints hend (hlow.2 hbounds) hprints
    have hspoiled := hsweeps.not_spoiled hvalid.nonempty hend hcorrect
    refine ⟨hsweeps.map_threads_outcomes hend, hcorrect, ?_⟩
    rcases hsweeps.grade_cases with ⟨hs, -⟩ | ⟨-, hslow, hgrade⟩ | ⟨-, hfast, hgrade⟩
    · exact absurd hs hspoiled
    · exact .inr ⟨hslow, hgrade⟩
    · exact .inl ⟨hfast, hgrade⟩
  · refine Bool.eq_false_iff.2 fun ho => hbounds (hany.1 ?_)
    exact Outcome.exists_contains_of_isCorrect ho
  · have hspoiled := hsweeps.spoiled_of_empty_range fun hx => hbounds (hany.1 hx)
    rcases hsweeps.grade_cases with ⟨-, hgrade⟩ | ⟨hs, -⟩ | ⟨hs, -⟩
    · exact hgrade
    · exact absurd hspoiled hs
    · exact absurd hspoiled hs

/-- Infinite bounds are numbers, and a program may print the lower one. -/
theorem satisfiable_runPi_infinite_bounds :
    let yaml :=
      "pi:\n  thread_counts: [1, 2]\n  acceptable_low: -.inf\n  acceptable_high: .inf\n"
    let c := { Config.default with
      pi := { PiConfig.default with
        threadCounts := [1, 2], low := -Number.infinity, high := Number.infinity } }
    let s := PiSettings.ofConfig c 4
    let b : Bench Script := ⟨.startingAt [], ⟨[], [.ok ⟨some 0, "-inf", "", 9000000000⟩,
      .ok ⟨some 0, "pi is -inf\n", "", 4000000000⟩]⟩, []⟩
    let log := Bench.log Script.subject b (runPi Script.subject s b).2
    let outcomes := (sweep Script.subject s s.threadCounts b).1.outcomes
    Config.ofYaml yaml = .ok c ∧ c.pi.range.HasBounds ∧ firstUnmade? log = none ∧
      (∀ r ∈ runAnswers log, Prints c.pi.low r) ∧ c.pi.low ≤ c.pi.high ∧
      ¬ Config.SetsToNaN yaml "acceptable_low" ∧ outcomes.map Outcome.threads = [1, 2] ∧
      (∀ o ∈ outcomes, o.isCorrect c.pi.range = true) ∧
      ((runPi Script.subject s b).1.grade = .pass ∨
        (runPi Script.subject s b).1.grade = .partly) := by
  intro yaml c s b log outcomes
  have hc : Config.ofYaml yaml = .ok c := eq_ok_of_toOption (by decide +kernel)
  have hbounds : c.pi.range.HasBounds := ⟨by decide, by decide⟩
  have hmade : firstUnmade? log = none := rfl
  have hprints : ∀ r ∈ runAnswers log, Prints c.pi.low r := by
    intro r hr
    rcases List.mem_pair.1 hr with rfl | rfl
    · exact ⟨_, rfl, rfl, rfl⟩
    · exact ⟨_, rfl, rfl, rfl⟩
  obtain ⟨horder, -, -, htext, hall⟩ := satisfiable_runPi (.text hc)
  obtain ⟨hthreads, hcorrect, hgrade⟩ := (hall Script.subject 4 b).1 hbounds hmade hprints
  exact ⟨hc, hbounds, hmade, hprints, horder.2 hbounds, ((htext yaml hc).1 hbounds).1, hthreads,
    hcorrect, hgrade.imp And.right And.right⟩

/-- An upper bound that is not a number is let through, and then the lower bound is not accepted. -/
theorem not_contains_low_under_nan :
    let c := { Config.default with
      pi := { PiConfig.default with threadCounts := [1, 2], high := Number.nan } }
    let s := PiSettings.ofConfig c 4
    let b : Bench Script := ⟨.startingAt [], ⟨[], [.ok ⟨some 0, "3.14", "", 9000000000⟩,
      .ok ⟨some 0, "3.14", "", 4000000000⟩]⟩, []⟩
    Config.ofYaml "pi:\n  thread_counts: [1, 2]\n  acceptable_high: .nan\n" = .ok c ∧
      ¬ c.pi.low ≤ c.pi.high ∧ c.pi.range.contains c.pi.low = false ∧
      (∀ r ∈ runAnswers (Bench.log Script.subject b (runPi Script.subject s b).2),
        Prints c.pi.low r) ∧
      (runPi Script.subject s b).1.grade = .fail := by
  intro c s b
  have hc : Config.ofYaml "pi:\n  thread_counts: [1, 2]\n  acceptable_high: .nan\n" = .ok c :=
    eq_ok_of_toOption (by decide +kernel)
  refine ⟨hc, by decide, by decide, fun r hr => ?_, by decide +kernel⟩
  rcases List.mem_pair.1 hr with rfl | rfl
  · exact ⟨_, rfl, rfl, rfl⟩
  · exact ⟨_, rfl, rfl, rfl⟩

end Suite
end Autograder
