/-
# What becomes of the lines about runs

For each run of the parallel pi test there is a line that tells what became of it (`runLines`). The
lines are written once all thread counts are through. So a verdict has all of them, in the order of
the runs, if each target is made; but if one is not, none of the lines about the runs before it gets
into the verdict (`runLines_runPi`), although the remarks on the cleanings do.
-/

import Autograder.Proofs.Suite.Explained
import Autograder.Proofs.Suite.PiCalls
import Autograder.Proofs.Text.Decimal
import Autograder.Subject.Scripted

namespace Autograder
namespace Suite

/-- The lines about the runs of a test with the requests and answers of a log. -/
def runLines (s : PiSettings) (log : List (Call × RunResult)) : List Diagnostic :=
  (List.zipWith outcome s.threadCounts (runAnswers log)).map Sweep.outcomeLine

/-! ## Lines about runs, and other lines -/

theorem severity_outcomeLine_ne_warning (o : Outcome) :
    (Sweep.outcomeLine o).severity ≠ .warning := by
  cases o <;> exact nofun

/-- The line about a run that failed begins with a digit. -/
theorem head?_failedLine (threads : Nat) (reason : String) :
    ∃ c, (Sweep.failedLine threads reason).message.toList.head? = some c ∧ c.isDigit = true := by
  obtain ⟨c, rest, hdigits⟩ :=
    List.exists_cons_of_ne_nil (Nat.toDigits_ne_nil (n := threads) (b := 10))
  have hhead : (toString threads).toList.head? = some c := by
    rw [Nat.toString_eq_repr, Nat.toList_repr, hdigits, List.head?_cons]
  have hdigit : c ∈ Nat.toDigits 10 threads := by
    rw [hdigits]
    exact List.mem_cons_self
  exact ⟨c, head?_append (head?_append hhead _) _, Text.isDigit_of_mem_toDigits hdigit⟩

/-- The line about a run is not the one about a target that is not made. -/
theorem outcomeLine_ne_of_makeFailure? {target : String} {made : RunResult} {failure : Diagnostic}
    (h : makeFailure? target made = some failure) (o : Outcome) :
    Sweep.outcomeLine o ≠ failure := by
  obtain ⟨message, rfl, hhead⟩ := exists_failure_of_makeFailure? h
  intro hline
  cases o with
  | measured sample => cases congrArg Diagnostic.severity hline
  | failed threads reason =>
    obtain ⟨c, hc, hdigit⟩ := head?_failedLine threads reason
    rw [show Sweep.failedLine threads reason = .failure message from hline] at hc
    obtain rfl : c = 'E' := Option.some.inj (hc.symm.trans hhead)
    exact absurd hdigit (by decide)

/-! ## Sweeps -/

variable {s : PiSettings} {ts : List Nat} {log : List (Call × RunResult)} {swept : Swept}

theorem length_runLines (s : PiSettings) (log : List (Call × RunResult)) :
    (runLines s log).length = min s.threadCounts.length (runAnswers log).length := by
  rw [runLines, List.length_map, List.length_zipWith]

/-- The lines about the runs are those about the outcomes of the sweep. -/
theorem Sweeps.runLines_eq (h : Sweeps s s.threadCounts log swept) :
    runLines s log = swept.outcomes.map Sweep.outcomeLine := by
  rw [h.outcomes_eq, runLines]

/-- If each target is made, the sweep is not cut short. -/
theorem Sweeps.failure?_eq_none (h : Sweeps s ts log swept) (hnone : firstUnmade? log = none) :
    swept.failure? = none := by
  induction h with
  | nil => rfl
  | cut hfailure =>
    rw [firstUnmade?_cut _ (isSuccess_eq_false_of_makeFailure? hfailure)] at hnone
    cases hnone
  | cons hmade _ ih =>
    rw [firstUnmade?_cons _ _ _ _ hmade, Option.map_eq_none_iff] at hnone
    exact ih hnone

/-- There is a run for each thread count before the first whose target is not made. -/
theorem Sweeps.length_runAnswers_of_cut (h : Sweeps s ts log swept) {k : Nat}
    (hk : firstUnmade? log = some k) : (runAnswers log).length = k := by
  induction h generalizing k with
  | nil => cases hk
  | cut hfailure =>
    rw [firstUnmade?_cut _ (isSuccess_eq_false_of_makeFailure? hfailure)] at hk
    cases hk
    rfl
  | cons hmade _ ih =>
    rw [firstUnmade?_cons _ _ _ _ hmade] at hk
    obtain ⟨i, hi, rfl⟩ := Option.map_eq_some_iff.1 hk
    exact congrArg Nat.succ (ih hi)

/-- **A sweep that is cut short says nothing of its runs.** -/
theorem Sweeps.outcomeLine_not_mem (h : Sweeps s ts log swept) {k : Nat}
    (hk : firstUnmade? log = some k) (o : Outcome) :
    Sweep.outcomeLine o ∉ (judgeSweep s swept).diagnostics := by
  obtain ⟨-, made, failure, -, hfailure, hswept⟩ := h.exists_failure hk
  -- Such a sweep only speaks of its cleanings and of the target that is not made.
  rw [judgeSweep, hswept]
  intro hmem
  rcases List.mem_append.1 hmem with hmem | hmem
  · exact severity_outcomeLine_ne_warning o (h.severity_of_mem_warnings _ hmem)
  · exact outcomeLine_ne_of_makeFailure? hfailure o (List.mem_singleton.1 hmem)

/-- **A sweep that goes to its end has a line for each of its runs**, in their order. -/
theorem outcomeLines_sublist_judgeSweep (s : PiSettings) (hnone : swept.failure? = none) :
    (swept.outcomes.map Sweep.outcomeLine).Sublist (judgeSweep s swept).diagnostics := by
  rw [judgeSweep, hnone]
  exact ((Sweep.outcomeLines_sublist s.cores s.range swept.outcomes).trans
    (List.sublist_append_right swept.warnings _)).trans (List.sublist_append_left _ _)

/-! ## The test -/

/-- **The lines about the runs of the parallel pi test.** If each target is made, there is a run for
each thread count, and the verdict has a line for each, in the order of the runs. If the target of
the `k`-th thread count is the first that is not made, there were `k` runs before, and the verdict
has no line for any of them. -/
theorem runLines_runPi {σ : Type} (subject : Subject σ) (s : PiSettings) (b : Bench σ) :
    (firstUnmade? (Bench.log subject b (runPi subject s b).2) = none →
        (runLines s (Bench.log subject b (runPi subject s b).2)).length = s.threadCounts.length ∧
        (runLines s (Bench.log subject b (runPi subject s b).2)).Sublist
          (runPi subject s b).1.diagnostics) ∧
      ∀ k, firstUnmade? (Bench.log subject b (runPi subject s b).2) = some k →
        (runLines s (Bench.log subject b (runPi subject s b).2)).length = k ∧
        ∀ line ∈ runLines s (Bench.log subject b (runPi subject s b).2),
          line ∉ (runPi subject s b).1.diagnostics := by
  have hsweeps := sweeps_runPi subject s b
  refine ⟨fun hnone => ?_, fun k hk => ?_⟩
  · have hend := hsweeps.failure?_eq_none hnone
    rw [length_runLines, hsweeps.length_runAnswers hend, hsweeps.runLines_eq]
    exact ⟨Nat.min_self _, outcomeLines_sublist_judgeSweep s hend⟩
  · obtain ⟨hlt, -⟩ := hsweeps.exists_failure hk
    rw [length_runLines, hsweeps.length_runAnswers_of_cut hk, hsweeps.runLines_eq]
    refine ⟨Nat.min_eq_right hlt.le, fun line hline => ?_⟩
    obtain ⟨o, -, rfl⟩ := List.mem_map.1 hline
    exact hsweeps.outcomeLine_not_mem hk o

/-- The first of two thread counts is run, and then the target of the second is not made. -/
theorem not_sublist_runLines_second_unmade :
    let s : PiSettings := ⟨[1, 2], 1000, ⟨3.14, 3.15⟩, 4, 5000000000, false⟩
    let made : RunResult := .ok ⟨some 0, "", "", 0⟩
    let b : Bench Script := ⟨.startingAt [],
      ⟨[made, made, made, .ok ⟨some 2, "", "pi.c:10: error", 0⟩],
        [.ok ⟨some 0, "3.1416", "", 10000000000⟩]⟩, []⟩
    ¬ (runLines s (Bench.log Script.subject b (runPi Script.subject s b).2)).Sublist
      (runPi Script.subject s b).1.diagnostics := by
  intro s made b hlines
  have hk : firstUnmade? (Bench.log Script.subject b (runPi Script.subject s b).2) = some 1 := rfl
  exact (sweeps_runPi Script.subject s b).outcomeLine_not_mem hk _
    (hlines.subset List.mem_cons_self)

end Suite
end Autograder
