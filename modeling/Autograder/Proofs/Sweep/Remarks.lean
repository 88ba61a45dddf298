/-
# What is said of a sweep

For each run there is a line that tells what became of it, in the order of the runs
(`outcomeLines_sublist`). More is said of a run only if its estimate is out of the range, or if it
is compared with the run before it. So the judgments can be told from the weight of the lines: a
failure is only said of a sweep that is not correct or not timely (`severity_ne_failure_of_assess`),
and a sweep that is not timely has at least a warning (`exists_remark_of_untimely`).
-/

import Autograder.Proofs.Sweep.Judgment

namespace Autograder

/-- How much the line about a step of a kind weighs. -/
def StepKind.severity : StepKind → Severity
  | .speedup | .oversubscribed => .info
  | .weakSpeedup | .oversubscribedFlat => .warning
  | .noSpeedup => .failure

theorem StepKind.isTooSlow_of_severity {k : StepKind} (h : k.severity = .failure) :
    k.isTooSlow = true := by
  cases k <;> first | rfl | cases h

theorem StepKind.severity_of_isTooSlow {k : StepKind} (h : k.isTooSlow = true) :
    k.severity = .warning ∨ k.severity = .failure := by
  rcases isTooSlow_iff.1 h with rfl | rfl
  · exact .inl rfl
  · exact .inr rfl

@[simp]
theorem Step.severity_diagnostic (cores : Nat) (s : Step) :
    (s.diagnostic cores).severity = s.kind.severity := by
  unfold diagnostic
  cases s.kind <;> rfl

namespace Sweep

/-- The line that tells what became of a run. -/
def outcomeLine : Outcome → Diagnostic
  | .measured s => measuredLine s
  | .failed threads reason => failedLine threads reason

variable {cores : Nat} {range : EstimateRange} {os : List Outcome}

/-! ## Blocks -/

/-- The line about a run comes before all else that is said of it. -/
theorem exists_block_eq (cores : Nat) (range : EstimateRange) (p : Option Sample × Outcome) :
    ∃ rest, block cores range p = outcomeLine p.2 :: rest := by
  obtain ⟨earlier, o⟩ := p
  cases o with
  | measured s => exact ⟨_, rfl⟩
  | failed threads reason => exact ⟨[], rfl⟩

/-- The line about the step that leads to a run is one of those about the run. -/
theorem diagnostic_mem_block {p : Option Sample × Outcome} {step : Step}
    (h : stepTo? cores p = some step) : step.diagnostic cores ∈ block cores range p := by
  obtain ⟨earlier, o⟩ := p
  cases o with
  | failed threads reason => cases earlier <;> cases h
  | measured s =>
    cases earlier with
    | none => cases h
    | some e =>
      have hstep : stepDiagnostic cores e s = step.diagnostic cores := by
        rw [stepDiagnostic, show Step.between? cores e s = some step from h]
      simp [block, hstep]

/-- **Failures are said of runs that are not correct, and of steps without any speedup.** -/
theorem failure_mem_block {p : Option Sample × Outcome} {d : Diagnostic}
    (hd : d ∈ block cores range p) (h : d.severity = .failure) :
    p.2.isCorrect range = false ∨ ∃ step, stepTo? cores p = some step ∧
      step.kind.isTooSlow = true := by
  obtain ⟨earlier, o⟩ := p
  cases o with
  | failed threads reason => exact .inl rfl
  | measured s =>
    rw [block, List.mem_cons, List.mem_append] at hd
    rcases hd with rfl | hd | hd
    · cases h
    · split at hd
      · cases hd
      · rename_i hout
        exact .inl (by simpa [Outcome.isCorrect] using hout)
    · cases earlier with
      | none => cases hd
      | some e =>
        obtain rfl : d = stepDiagnostic cores e s := by simpa using hd
        unfold stepDiagnostic at h
        split at h
        · rename_i step hstep
          rw [Step.severity_diagnostic] at h
          exact .inr ⟨step, hstep, StepKind.isTooSlow_of_severity h⟩
        · cases h

/-! ## Sweeps -/

theorem outcomeLines_sublist_flatMap (cores : Nat) (range : EstimateRange)
    (earlier : Option Sample) (os : List Outcome) :
    (os.map outcomeLine).Sublist ((withEarlier earlier os).flatMap (block cores range)) := by
  induction os generalizing earlier with
  | nil => exact List.nil_sublist _
  | cons o os ih =>
    obtain ⟨rest, hblock⟩ := exists_block_eq cores range (earlier, o)
    rw [withEarlier, List.flatMap_cons, hblock, List.map_cons, List.cons_append]
    exact ((ih o.sample?).trans (List.sublist_append_right rest _)).cons_cons _

theorem diagnostics_assess (hos : os ≠ []) :
    (assess cores range os).diagnostics =
      (withEarlier none os).flatMap (block cores range) := by
  rw [assess, if_neg (by simpa using hos)]

/-- **Each run has its line**, in the order of the runs. -/
theorem outcomeLines_sublist (cores : Nat) (range : EstimateRange) (os : List Outcome) :
    (os.map outcomeLine).Sublist (assess cores range os).diagnostics := by
  by_cases hos : os = []
  · rw [hos]
    exact List.nil_sublist _
  · rw [diagnostics_assess hos]
    exact outcomeLines_sublist_flatMap cores range none os

/-- **There is no failure in a sweep that is correct and timely.** -/
theorem severity_ne_failure_of_assess (hcorrect : (assess cores range os).correct = true)
    (htimely : (assess cores range os).timely = true) :
    ∀ d ∈ (assess cores range os).diagnostics, d.severity ≠ .failure := by
  obtain ⟨hos, hall⟩ := correct_assess_iff.1 hcorrect
  obtain ⟨-, hsteps⟩ := timely_assess_iff.1 htimely
  intro d hd hfailure
  rw [diagnostics_assess hos] at hd
  obtain ⟨p, hp, hd⟩ := List.mem_flatMap.1 hd
  rcases failure_mem_block hd hfailure with hout | ⟨step, hstep, hslow⟩
  · have hmem : p.2 ∈ os := by
      rw [withEarlier_eq_zip] at hp
      exact (List.of_mem_zip hp).2
    exact absurd (hout.symm.trans (hall p.2 hmem)) (by decide)
  · have hmem : step ∈ steps cores os := List.mem_filterMap.2 ⟨p, hp, hstep⟩
    exact absurd (hslow.symm.trans (hsteps step hmem)) (by decide)

/-- **There is a warning or a failure in a sweep that is not timely.** -/
theorem exists_remark_of_untimely (h : (assess cores range os).timely = false) :
    ∃ d ∈ (assess cores range os).diagnostics,
      d.severity = .warning ∨ d.severity = .failure := by
  by_cases hos : os = []
  · rw [hos]
    exact ⟨_, List.mem_singleton_self _, .inr rfl⟩
  · have htimely : (assess cores range os).timely =
        (steps cores os).all fun step => !step.kind.isTooSlow := by
      rw [assess, if_neg (by simpa using hos)]
    rw [htimely, List.all_eq_false] at h
    obtain ⟨step, hmem, hslow⟩ := h
    rw [Bool.not_eq_true, Bool.not_eq_false'] at hslow
    obtain ⟨p, hp, hstep⟩ := List.mem_filterMap.1 hmem
    rw [diagnostics_assess hos]
    refine ⟨_, List.mem_flatMap.2 ⟨p, hp, diagnostic_mem_block hstep⟩, ?_⟩
    rw [Step.severity_diagnostic]
    exact StepKind.severity_of_isTooSlow hslow

end Sweep
end Autograder
