/-
# Verdicts that explain themselves

A grade is computed from two judgments, and the diagnostics are collected along the way, so each
could say something else. They do not: a fail ends with the failure that it is due to, a verdict
between pass and fail has a warning or a failure, and a pass has no failure (`Verdict.Explained`).
In the message exchange test a failure is said of a fail only (`Verdict.ExplainedInFull`). In the
parallel pi test it is also said of a step without any speedup, which costs no more than half of the
score.
-/

import Autograder.Proofs.Suite.ExchangeCourse
import Autograder.Proofs.Suite.PiLog
import Autograder.Proofs.Sweep.Remarks
import Autograder.Suite.Settings

namespace Autograder
namespace Verdict

/-- The diagnostics of a test that was made bear out its grade. -/
structure Explained (v : Verdict) : Prop where
  graded : v.grade ≠ .notRun
  fail : v.grade = .fail → ∃ d, v.diagnostics.getLast? = some d ∧ d.severity = .failure
  partly : v.grade = .partly → ∃ d ∈ v.diagnostics, d.severity = .warning ∨ d.severity = .failure
  pass : v.grade = .pass → ∀ d ∈ v.diagnostics, d.severity ≠ .failure

/-- The diagnostics bear out the grade, and a failure is said of a fail only. -/
structure ExplainedInFull (v : Verdict) : Prop extends Explained v where
  failure : ∀ d ∈ v.diagnostics, d.severity = .failure → v.grade = .fail

variable {v : Verdict}

/-- **Where nothing is worth more than an information, all is well.** -/
theorem Explained.grade_of_info (h : v.Explained)
    (hinfo : ∀ d ∈ v.diagnostics, d.severity = .info) : v.grade = .pass := by
  cases hgrade : v.grade with
  | pass => rfl
  | partly =>
    obtain ⟨d, hd, hweight⟩ := h.partly hgrade
    rw [hinfo d hd] at hweight
    rcases hweight with hweight | hweight <;> cases hweight
  | fail =>
    obtain ⟨d, hlast, hweight⟩ := h.fail hgrade
    rw [hinfo d (List.mem_of_getLast? hlast)] at hweight
    cases hweight
  | notRun => exact absurd hgrade h.graded

theorem ExplainedInFull.grade_eq_fail_iff (h : v.ExplainedInFull) :
    v.grade = .fail ↔ ∃ d ∈ v.diagnostics, d.severity = .failure := by
  constructor
  · intro hgrade
    obtain ⟨d, hlast, hweight⟩ := h.fail hgrade
    exact ⟨d, List.mem_of_getLast? hlast, hweight⟩
  · rintro ⟨d, hd, hweight⟩
    exact h.failure d hd hweight

/-- A fail that ends with a failure is explained, whatever was said before. -/
theorem explained_failed (category : Category) (said : List Diagnostic) {d : Diagnostic}
    (hd : d.severity = .failure) : (failed category (said ++ [d])).ExplainedInFull where
  graded := nofun
  fail _ := ⟨d, List.getLast?_concat, hd⟩
  partly := nofun
  pass := nofun
  failure _ _ _ := rfl

/-- A lower grade is explained by any warning. -/
theorem explained_partly (category : Category) {ds : List Diagnostic} {d : Diagnostic}
    (hd : d ∈ ds) (hweight : d.severity = .warning ∨ d.severity = .failure) :
    (judge category true false ds).Explained where
  graded := nofun
  fail := nofun
  partly _ := ⟨d, hd, hweight⟩
  pass := nofun

/-- A pass is explained if there is no failure. -/
theorem explained_pass (category : Category) {ds : List Diagnostic}
    (h : ∀ d ∈ ds, d.severity ≠ .failure) : (judge category true true ds).ExplainedInFull where
  graded := nofun
  fail := nofun
  partly := nofun
  pass _ := h
  failure d hd hweight := absurd hweight (h d hd)

end Verdict

namespace Suite

/-! ## The parallel pi test -/

section Pi

variable {s : PiSettings} {ts : List Nat} {log : List (Call × RunResult)} {swept : Swept}

theorem Sweeps.severity_of_mem_warnings (h : Sweeps s ts log swept) :
    ∀ d ∈ swept.warnings, d.severity = .warning := by
  induction h with
  | nil => exact fun d hd => absurd hd List.not_mem_nil
  | cut _ => exact fun d hd => severity_of_mem_cleanWarnings hd
  | cons _ _ ih =>
    intro d hd
    rcases List.mem_append.1 hd with hd | hd
    · exact severity_of_mem_cleanWarnings hd
    · exact ih d hd

theorem Sweeps.severity_of_failure? (h : Sweeps s ts log swept) {failure : Diagnostic}
    (hfailure : swept.failure? = some failure) : failure.severity = .failure := by
  induction h with
  | nil => cases hfailure
  | cut hmade =>
    cases hfailure
    exact severity_of_makeFailure? hmade
  | cons _ _ ih => exact ih hfailure

/-- **The verdict on a sweep explains itself.** -/
theorem Sweeps.explained (h : Sweeps s ts log swept) : (judgeSweep s swept).Explained := by
  have hwarnings := h.severity_of_mem_warnings
  cases hfailure : swept.failure? with
  | some failure =>
    rw [judgeSweep, hfailure]
    have hfailed := Verdict.explained_failed .pi swept.warnings (h.severity_of_failure? hfailure)
    exact hfailed.toExplained
  | none =>
    rw [judgeSweep, hfailure]
    dsimp only
    cases hcorrect : (Sweep.assess s.cores s.range swept.outcomes).correct with
    | false => exact (Verdict.explained_failed .pi _ rfl).toExplained
    | true =>
      rw [if_pos rfl, List.append_nil]
      cases htimely : (Sweep.assess s.cores s.range swept.outcomes).timely with
      | false =>
        obtain ⟨d, hd, hweight⟩ := Sweep.exists_remark_of_untimely htimely
        exact Verdict.explained_partly .pi (List.mem_append_right _ hd) hweight
      | true =>
        refine (Verdict.explained_pass .pi fun d hd => ?_).toExplained
        rcases List.mem_append.1 hd with hd | hd
        · simp [hwarnings d hd]
        · exact Sweep.severity_ne_failure_of_assess hcorrect htimely d hd

end Pi

/-! ## The message exchange test -/

section Exchange

variable {s : ExchangeSettings} {expected : BucketSet} {said : List Diagnostic}

/-- **The verdict on an output explains itself**, unless a failure was said before. -/
theorem explained_judgeOutput (hsaid : ∀ d ∈ said, d.severity ≠ .failure) (o : ProcessOutput) :
    (judgeOutput s expected said o).ExplainedInFull := by
  unfold judgeOutput
  split
  · exact Verdict.explained_failed .exchange said rfl
  · split
    · rename_i mismatch _
      have hfailed := Verdict.explained_failed .exchange (said ++ [.failure mismatchLine])
        (show (Diagnostic.failure mismatch.message).severity = .failure from rfl)
      rwa [List.append_assoc] at hfailed
    · have hlines (busy : Bool) (praise : String) : ∀ d ∈ said ++
          (Diagnostic.info praise :: if busy then [.warning busyLine] else []),
          d.severity ≠ .failure := by
        intro d hd
        rcases List.mem_append.1 hd with hd | hd
        · exact hsaid d hd
        · rcases List.mem_cons.1 hd with rfl | hd
          · exact nofun
          · split at hd
            · rw [List.mem_singleton.1 hd]
              exact nofun
            · cases hd
      dsimp only
      cases isBusy s.busyMarker o with
      | false => exact Verdict.explained_pass .exchange (hlines false _)
      | true =>
        have hbusy (praise : String) : Diagnostic.warning busyLine ∈
            said ++ [.info praise, .warning busyLine] :=
          List.mem_append_right _ (List.mem_cons_of_mem _ (List.mem_singleton_self _))
        exact ⟨Verdict.explained_partly .exchange (hbusy _) (.inl rfl),
          fun d hd hweight => absurd hweight (hlines true _ d hd)⟩

theorem explained_judgeRun (hsaid : ∀ d ∈ said, d.severity ≠ .failure) (r : RunResult) :
    (judgeRun s expected said r).ExplainedInFull := by
  unfold judgeRun
  split
  · exact Verdict.explained_failed .exchange said rfl
  · exact explained_judgeOutput hsaid _

variable {σ ρ : Type} {subject : Subject σ} {dice : SeededDice ρ} {b : Bench σ}

/-- **Wherever an exchange ends, its verdict explains itself.** -/
theorem Course.explained {out : Verdict × Bench σ} (h : Course subject dice s b out) :
    out.1.ExplainedInFull := by
  cases h with
  | unmade hfailure =>
    exact Verdict.explained_failed .exchange _ (severity_of_makeFailure? hfailure)
  | unprepared => exact Verdict.explained_failed .exchange _ rfl
  | unloaded => exact Verdict.explained_failed .exchange _ rfl
  | ran hprepare hruns =>
    rw [exchangeOn_of_runs hruns]
    refine explained_judgeRun (fun d hd => ?_) _
    simp only [List.mem_append, List.mem_singleton] at hd
    rcases hd with (hd | rfl) | hd
    · simp [severity_of_mem_cleanWarnings hd]
    · simp [severity_note hprepare]
    · simp [severity_of_mem_keep hd]

end Exchange

/-! ## All tests -/

/-- **Grade and diagnostics never contradict each other**, whatever the settings, the files and the
subject are. A test that was made ends with a failure if it failed, has a warning or a failure if it
is between pass and fail, and has no failure if it passed; so without a warning or a failure it
passed. The message exchange test failed if and only if there is a failure. -/
theorem explained_verdicts {σ ρ : Type} (subject : Subject σ) (dice : SeededDice ρ)
    (b : Bench σ) :
    (∀ s, (runPi subject s b).1.Explained ∧
        ((∀ d ∈ (runPi subject s b).1.diagnostics, d.severity = .info) →
          (runPi subject s b).1.grade = .pass)) ∧
      (∀ s, (runExchange subject dice s b).1.Explained ∧
        ((∀ d ∈ (runExchange subject dice s b).1.diagnostics, d.severity = .info) →
          (runExchange subject dice s b).1.grade = .pass) ∧
        ((runExchange subject dice s b).1.grade = .fail ↔
          ∃ d ∈ (runExchange subject dice s b).1.diagnostics, d.severity = .failure)) ∧
      ∀ c source, (gradeExchange subject dice c source b).1.Explained ∧
        ((∀ d ∈ (gradeExchange subject dice c source b).1.diagnostics, d.severity = .info) →
          (gradeExchange subject dice c source b).1.grade = .pass) ∧
        ((gradeExchange subject dice c source b).1.grade = .fail ↔
          ∃ d ∈ (gradeExchange subject dice c source b).1.diagnostics,
            d.severity = .failure) := by
  have hexchange (s : ExchangeSettings) : (runExchange subject dice s b).1.ExplainedInFull :=
    (course_runExchange subject dice s b).explained
  have hgraded (c : Config) (source : Except CorpusError WorkloadSource) :
      (gradeExchange subject dice c source b).1.ExplainedInFull := by
    cases source with
    | error e => exact Verdict.explained_failed .exchange [] rfl
    | ok source => exact hexchange (.ofConfig c source)
  refine ⟨fun s => ?_, fun s => ?_, fun c source => ?_⟩
  · have hpi : (runPi subject s b).1.Explained :=
      (sweeps_runPi subject s b).explained
    exact ⟨hpi, hpi.grade_of_info⟩
  · exact ⟨(hexchange s).toExplained, (hexchange s).grade_of_info, (hexchange s).grade_eq_fail_iff⟩
  · exact ⟨(hgraded c source).toExplained, (hgraded c source).grade_of_info,
      (hgraded c source).grade_eq_fail_iff⟩

end Suite
end Autograder
