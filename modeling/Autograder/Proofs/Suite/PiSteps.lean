/-
# The steps of the parallel pi test

A configuration that was loaded has increasing thread counts, and a test whose targets are all made
runs each of them, in their order, whatever comes of the runs. So the outcomes that are judged stand
in the order of the thread counts (`Sweeps.map_threads_outcomes`), and with them the steps: once a
step goes beyond the cores, no later step can make the test untimely (`steps_runPi`).
-/

import Autograder.Proofs.Config.Valid
import Autograder.Proofs.Suite.PiLines
import Autograder.Proofs.Sweep.Increasing
import Autograder.Suite.Settings

namespace Autograder
namespace Suite

variable {s : PiSettings} {ts : List Nat} {log : List (Call × RunResult)} {swept : Swept}

/-- An outcome keeps the number of threads of its run. -/
theorem threads_outcome (t : Nat) (r : RunResult) : (outcome t r).threads = t := by
  unfold outcome
  split
  · rfl
  · split <;> rfl

/-- **A sweep that goes to its end has the outcomes of all its thread counts**, in their order. -/
theorem Sweeps.map_threads_outcomes (h : Sweeps s ts log swept) (hnone : swept.failure? = none) :
    swept.outcomes.map Outcome.threads = ts := by
  induction h with
  | nil => rfl
  | cut _ => cases hnone
  | cons _ _ ih => rw [List.map_cons, threads_outcome, ih hnone]

/-- A sweep that goes to its end is judged by its outcomes. -/
theorem judgeSweep_of_end (s : PiSettings) (hnone : swept.failure? = none) :
    ∃ closing, judgeSweep s swept =
      .judge .pi (Sweep.assess s.cores s.range swept.outcomes).correct
        (Sweep.assess s.cores s.range swept.outcomes).timely
        (swept.warnings ++ (Sweep.assess s.cores s.range swept.outcomes).diagnostics ++
          closing) := by
  rw [judgeSweep, hnone]
  exact ⟨_, rfl⟩

/-- **The steps of a test with a loaded configuration.** The thread counts are positive, there is at
least one, and each is less than all that follow. If all targets are made, the test is judged by one
outcome for each of them, in their order. So a step joins two neighbouring thread counts, from the
lower to the higher; later steps start where earlier ones led to, or further on; and once a step
goes beyond the cores all later steps do, and none of them is too slow. -/
theorem steps_runPi {c : Config} (h : c.Loaded) :
    c.pi.threadCounts ≠ [] ∧ (∀ t ∈ c.pi.threadCounts, 1 ≤ t) ∧
      c.pi.threadCounts.Pairwise (· < ·) ∧
      ∀ {σ : Type} (subject : Subject σ) (cores : Nat) (b : Bench σ),
        let s := PiSettings.ofConfig c cores
        let swept := (sweep subject s s.threadCounts b).1
        let assessment := Sweep.assess s.cores s.range swept.outcomes
        firstUnmade? (Bench.log subject b (runPi subject s b).2) = none →
        (∃ closing, (runPi subject s b).1 =
          .judge .pi assessment.correct assessment.timely
            (swept.warnings ++ assessment.diagnostics ++ closing)) ∧
        swept.outcomes.map Outcome.threads = c.pi.threadCounts ∧
        (∀ step ∈ assessment.steps,
          (∃ i, c.pi.threadCounts[i]? = some step.fromThreads ∧
            c.pi.threadCounts[i + 1]? = some step.toThreads) ∧
          step.fromThreads < step.toThreads ∧
          (step.kind.IsOversubscribed ↔ s.cores < step.toThreads)) ∧
        assessment.steps.Pairwise fun x y =>
          x.fromThreads < y.fromThreads ∧ x.toThreads ≤ y.fromThreads ∧
            (x.kind.IsOversubscribed → y.kind.IsOversubscribed ∧ y.kind.isTooSlow = false) := by
  have hvalid := h.valid
  refine ⟨hvalid.nonempty, hvalid.positive, hvalid.increasing, ?_⟩
  intro σ subject cores b s swept assessment hmade
  have hsweeps : Sweeps s s.threadCounts (Bench.log subject b (runPi subject s b).2) swept :=
    sweeps_runPi subject s b
  have hend : swept.failure? = none := hsweeps.failure?_eq_none hmade
  have hthreads : swept.outcomes.map Outcome.threads = c.pi.threadCounts :=
    hsweeps.map_threads_outcomes hend
  have hincreasing : (swept.outcomes.map Outcome.threads).Pairwise (· < ·) := by
    rw [hthreads]
    exact hvalid.increasing
  have hsteps : assessment.steps = Sweep.steps s.cores swept.outcomes :=
    Sweep.steps_assess s.cores s.range swept.outcomes
  rw [hsteps]
  refine ⟨judgeSweep_of_end s hend, hthreads, fun step hstep => ⟨?_, ?_, ?_⟩, ?_⟩
  · rw [← hthreads]
    exact Sweep.exists_threads_of_mem_steps hstep
  · exact Sweep.fromThreads_lt_of_mem_steps hincreasing hstep
  · rw [Sweep.kind_of_mem_steps hstep]
    exact StepKind.isOversubscribed_classify_iff
  · have hordered : (Sweep.steps s.cores swept.outcomes).Pairwise
        fun x y => x.toThreads ≤ y.fromThreads := Sweep.pairwise_steps hincreasing
    have hboth := hordered.and (Sweep.pairwise_isOversubscribed hincreasing)
    refine hboth.imp_of_mem fun {x y} hx _ ⟨hxy, hbeyond⟩ => ⟨?_, hxy, fun hover => ?_⟩
    · exact lt_of_lt_of_le (Sweep.fromThreads_lt_of_mem_steps hincreasing hx) hxy
    · exact ⟨hbeyond hover, (hbeyond hover).isTooSlow_eq_false⟩

/-- Three thread counts, the last of them beyond the cores, where the second run is killed. -/
theorem steps_runPi_three_counts :
    let c := { Config.default with
      pi := { PiConfig.default with threadCounts := [1, 3, 9], cores := some 4 } }
    let s := PiSettings.ofConfig c 1
    let b : Bench Script := ⟨.startingAt [], ⟨[], [.ok ⟨some 0, "3.1416", "", 9000000000⟩,
      .error (.timeout "./pi" 5), .ok ⟨some 0, "3.1416", "", 2000000000⟩]⟩, []⟩
    Config.ofYaml "pi:\n  thread_counts: [1, 3, 9]\n  available_cores: 4\n" = .ok c ∧
      firstUnmade? (Bench.log Script.subject b (runPi Script.subject s b).2) = none ∧
      (sweep Script.subject s s.threadCounts b).1.outcomes.map Outcome.threads = [1, 3, 9] := by
  intro c s b
  have hc : Config.ofYaml "pi:\n  thread_counts: [1, 3, 9]\n  available_cores: 4\n" = .ok c :=
    eq_ok_of_toOption (by decide +kernel)
  have hmade : firstUnmade? (Bench.log Script.subject b (runPi Script.subject s b).2) = none := rfl
  obtain ⟨-, -, -, hall⟩ := steps_runPi (.text hc)
  exact ⟨hc, hmade, (hall Script.subject 1 b hmade).2.1⟩

end Suite
end Autograder
