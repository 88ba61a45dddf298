/-
# The grade of the parallel pi test

All that counts are the requests that the test makes and the answers to them. The test fails for
one of five reasons (`Spoiled`): there is no thread count, a target is not made, a run does not end
well, an output does not end with a number, or an estimate is out of the range. A test that is not
spoiled loses half of its score for one step without enough speedup (`LacksSpeedup`), and the rest
of the steps, the cleanings and the remarks make no difference (`grade_runPi`).
-/

import Autograder.Proofs.Suite.PiLog
import Autograder.Proofs.Sweep.Judgment
import Autograder.Proofs.Text.Blank

namespace Autograder
namespace Suite

/-- The number that an output ends with: its last word, if that is a number. -/
def lastNumber? (o : ProcessOutput) : Option Float :=
  (Text.words o.stdout.toList).getLast?.bind Number.read?

/-- What spoils a test with the requests and answers of a log. -/
inductive Spoiled (s : PiSettings) (log : List (Call × RunResult)) : Prop
  /-- There are no thread counts. -/
  | empty : s.threadCounts = [] → Spoiled s log
  /-- The target of a thread count is not made. -/
  | build {threads : Nat} {made : RunResult} : threads ∈ s.threadCounts →
      (.build (makeArgs (s.flags threads) piTarget), made) ∈ log → made.isSuccess = false →
      Spoiled s log
  /-- A run does not end with exit code 0. -/
  | run {ran : RunResult} : ran ∈ runAnswers log → ran.isSuccess = false → Spoiled s log
  /-- The last word of an output is not a number, or there is none. -/
  | estimate {o : ProcessOutput} : .ok o ∈ runAnswers log → lastNumber? o = none → Spoiled s log
  /-- An estimate is not in the range. -/
  | range {o : ProcessOutput} {x : Float} : .ok o ∈ runAnswers log → lastNumber? o = some x →
      ¬ (s.range.low ≤ x ∧ x ≤ s.range.high) → Spoiled s log

/-- Of two neighbouring runs the earlier took some time, and the later is no faster, or not by
enough. -/
def LacksSpeedup (s : PiSettings) (log : List (Call × RunResult)) : Prop :=
  ∃ i threads earlier later, s.threadCounts[i + 1]? = some threads ∧
    (runAnswers log)[i]? = some (.ok earlier) ∧ (runAnswers log)[i + 1]? = some (.ok later) ∧
    0.0 < earlier.seconds ∧
    (StepKind.classify (later.seconds / earlier.seconds) threads s.cores = .weakSpeedup ∨
      StepKind.classify (later.seconds / earlier.seconds) threads s.cores = .noSpeedup)

/-! ## Runs -/

theorem estimate?_eq (o : ProcessOutput) : estimate? o.stdout = lastNumber? o := by
  rw [estimate?, Text.lastWord?_eq_getLast?_words, lastNumber?]

/-- A run is measured if it ends with exit code 0 and its output ends with a number. -/
theorem outcome_eq_measured_iff {threads : Nat} {r : RunResult} {sample : Sample} :
    outcome threads r = .measured sample ↔
      ∃ o x, r = .ok o ∧ o.success = true ∧ lastNumber? o = some x ∧
        sample = ⟨threads, o.seconds, x⟩ := by
  unfold outcome
  split
  · rename_i reason hreason
    constructor
    · intro h
      cases h
    · rintro ⟨o, x, rfl, hsuccess, -⟩
      rw [judgeable_eq_ok_iff.2 ⟨rfl, hsuccess⟩] at hreason
      cases hreason
  · rename_i o ho
    obtain ⟨rfl, hsuccess⟩ := judgeable_eq_ok_iff.1 ho
    rw [estimate?_eq]
    split
    · rename_i x hx
      rw [Outcome.measured.injEq]
      constructor
      · rintro rfl
        exact ⟨o, x, rfl, hsuccess, hx, rfl⟩
      · rintro ⟨o', x', ho', -, hx', rfl⟩
        cases ho'
        cases hx.symm.trans hx'
        rfl
    · rename_i hnone
      constructor
      · intro h
        cases h
      · rintro ⟨o', x', ho', -, hx', -⟩
        cases ho'
        cases hnone.symm.trans hx'

/-- The answer to a run that gives an estimate inside a range. -/
def IsAccurate (range : EstimateRange) (r : RunResult) : Prop :=
  ∃ o x, r = .ok o ∧ o.success = true ∧ lastNumber? o = some x ∧ range.low ≤ x ∧ x ≤ range.high

theorem isCorrect_outcome_iff {threads : Nat} {r : RunResult} {range : EstimateRange} :
    (outcome threads r).isCorrect range = true ↔ IsAccurate range r := by
  constructor
  · intro h
    cases hr : outcome threads r with
    | failed threads reason =>
      rw [hr] at h
      cases h
    | measured sample =>
      obtain ⟨o, x, rfl, hsuccess, hx, rfl⟩ := outcome_eq_measured_iff.1 hr
      rw [hr] at h
      exact ⟨o, x, rfl, hsuccess, hx, EstimateRange.contains_iff.1 h⟩
  · rintro ⟨o, x, rfl, hsuccess, hx, hrange⟩
    rw [outcome_eq_measured_iff.2 ⟨o, x, rfl, hsuccess, hx, rfl⟩]
    exact EstimateRange.contains_iff.2 hrange

/-- A run is accurate unless it gives one of three reasons. -/
theorem not_isAccurate_iff {range : EstimateRange} {r : RunResult} :
    ¬ IsAccurate range r ↔ r.isSuccess = false ∨ (∃ o, r = .ok o ∧ lastNumber? o = none) ∨
      ∃ o x, r = .ok o ∧ lastNumber? o = some x ∧ ¬ (range.low ≤ x ∧ x ≤ range.high) := by
  constructor
  · intro h
    by_contra hother
    rw [not_or, not_or, Bool.not_eq_false] at hother
    obtain ⟨hsuccess, hsome, hrange⟩ := hother
    obtain ⟨o, rfl, hsuccess⟩ := RunResult.isSuccess_iff.1 hsuccess
    cases hx : lastNumber? o with
    | none => exact hsome ⟨o, rfl, hx⟩
    | some x =>
      refine hrange ⟨o, x, rfl, hx, fun hin => ?_⟩
      exact h ⟨o, x, rfl, hsuccess, hx, hin⟩
  · rintro h ⟨o, x, rfl, hsuccess, hx, hin⟩
    rcases h with h | ⟨o', ho', hnone⟩ | ⟨o', x', ho', hx', hout⟩
    · exact absurd (hsuccess.symm.trans h) (by decide)
    · cases ho'
      cases hx.symm.trans hnone
    · cases ho'
      cases hx.symm.trans hx'
      exact hout hin

/-! ## Sweeps -/

variable {s : PiSettings} {log : List (Call × RunResult)} {swept : Swept}

/-- The outcomes of a sweep that is not cut short are those of its runs. -/
theorem Sweeps.forall_outcomes_iff {ts : List Nat} (h : Sweeps s ts log swept)
    (hnone : swept.failure? = none) :
    (∀ o ∈ swept.outcomes, o.isCorrect s.range = true) ↔
      ∀ r ∈ runAnswers log, IsAccurate s.range r := by
  have hlength := h.length_runAnswers hnone
  rw [h.outcomes_eq]
  constructor
  · intro hall r hr
    obtain ⟨i, hi⟩ := List.mem_iff_getElem?.1 hr
    obtain ⟨hlt, -⟩ := List.getElem?_eq_some_iff.1 hi
    have ht : ts[i]? = some ts[i] := List.getElem?_eq_getElem (by omega)
    have hmem : outcome ts[i] r ∈ List.zipWith outcome ts (runAnswers log) :=
      List.mem_iff_getElem?.2 ⟨i, List.getElem?_zipWith_eq_some.2 ⟨_, _, ht, hi, rfl⟩⟩
    exact isCorrect_outcome_iff.1 (hall _ hmem)
  · intro hall o ho
    obtain ⟨i, hi⟩ := List.mem_iff_getElem?.1 ho
    obtain ⟨t, r, -, hr, rfl⟩ := List.getElem?_zipWith_eq_some.1 hi
    exact isCorrect_outcome_iff.2 (hall r (List.mem_iff_getElem?.2 ⟨i, hr⟩))

/-- **What spoils a sweep.** -/
theorem Sweeps.spoiled_iff (h : Sweeps s s.threadCounts log swept)
    (hnone : swept.failure? = none) :
    Spoiled s log ↔ (Sweep.assess s.cores s.range swept.outcomes).correct = false := by
  have hempty : swept.outcomes = [] ↔ s.threadCounts = [] := by
    rw [h.outcomes_eq, List.zipWith_eq_nil_iff, ← List.length_eq_zero_iff (l := runAnswers log),
      h.length_runAnswers hnone, List.length_eq_zero_iff, or_self]
  rw [← Bool.not_eq_true, Sweep.correct_assess_iff, h.forall_outcomes_iff hnone, Ne, hempty]
  constructor
  · rintro hspoiled ⟨hne, hall⟩
    have haccurate {r : RunResult} (hr : r ∈ runAnswers log) := not_not_intro (hall r hr)
    cases hspoiled with
    | empty hts => exact hne hts
    | build ht hmem hmade =>
      exact absurd (hmade.symm.trans (h.isSuccess_of_mem hnone hmem)) (by decide)
    | run hr hran => exact haccurate hr (not_isAccurate_iff.2 (.inl hran))
    | estimate ho hx => exact haccurate ho (not_isAccurate_iff.2 (.inr (.inl ⟨_, rfl, hx⟩)))
    | range ho hx hout =>
      exact haccurate ho (not_isAccurate_iff.2 (.inr (.inr ⟨_, _, rfl, hx, hout⟩)))
  · intro hcorrect
    by_cases hts : s.threadCounts = []
    · exact .empty hts
    · have hsome : ∃ r ∈ runAnswers log, ¬ IsAccurate s.range r := by
        by_contra hall
        push Not at hall
        exact hcorrect ⟨hts, hall⟩
      obtain ⟨r, hr, haccurate⟩ := hsome
      rcases not_isAccurate_iff.1 haccurate with hran | ⟨o, rfl, hx⟩ | ⟨o, x, rfl, hx, hout⟩
      · exact .run hr hran
      · exact .estimate hr hx
      · exact .range hr hx hout

/-- The runs of a sweep that are measured. -/
theorem Sweeps.getElem?_outcomes_iff {ts : List Nat} (h : Sweeps s ts log swept) {i : Nat}
    {sample : Sample} : swept.outcomes[i]? = some (.measured sample) ↔
      ∃ t o x, ts[i]? = some t ∧ (runAnswers log)[i]? = some (.ok o) ∧ o.success = true ∧
        lastNumber? o = some x ∧ sample = ⟨t, o.seconds, x⟩ := by
  rw [h.outcomes_eq, List.getElem?_zipWith_eq_some]
  constructor
  · rintro ⟨t, r, ht, hr, houtcome⟩
    obtain ⟨o, x, rfl, hsuccess, hx, hsample⟩ := outcome_eq_measured_iff.1 houtcome
    exact ⟨t, o, x, ht, hr, hsuccess, hx, hsample⟩
  · rintro ⟨t, o, x, ht, hr, hsuccess, hx, hsample⟩
    exact ⟨t, .ok o, ht, hr, outcome_eq_measured_iff.2 ⟨o, x, rfl, hsuccess, hx, hsample⟩⟩

/-- If each run is accurate, the steps of a sweep are those between neighbouring runs. -/
theorem Sweeps.lacksSpeedup_iff (h : Sweeps s s.threadCounts log swept)
    (hall : ∀ r ∈ runAnswers log, IsAccurate s.range r) :
    LacksSpeedup s log ↔
      ∃ step ∈ Sweep.steps s.cores swept.outcomes, step.kind.isTooSlow = true := by
  -- An answer of the log was measured, as it is accurate.
  have hmeasured {i t : Nat} {o : ProcessOutput} (ht : s.threadCounts[i]? = some t)
      (ho : (runAnswers log)[i]? = some (.ok o)) :
      ∃ x, swept.outcomes[i]? = some (.measured ⟨t, o.seconds, x⟩) := by
    obtain ⟨o', x, ho', hsuccess, hx, -⟩ := hall _ (List.mem_iff_getElem?.2 ⟨i, ho⟩)
    cases ho'
    exact ⟨x, h.getElem?_outcomes_iff.2 ⟨t, o, x, ht, ho, hsuccess, hx, rfl⟩⟩
  constructor
  · rintro ⟨i, t', o, o', ht', ho, ho', hpos, hkind⟩
    obtain ⟨hlt, -⟩ := List.getElem?_eq_some_iff.1 ht'
    have ht : s.threadCounts[i]? = some s.threadCounts[i] := List.getElem?_eq_getElem (by omega)
    obtain ⟨x, hx⟩ := hmeasured ht ho
    obtain ⟨x', hx'⟩ := hmeasured ht' ho'
    exact ⟨_, Sweep.mem_steps_iff.2
      ⟨i, _, _, hx, hx', Step.between?_eq_some_iff.2 ⟨hpos, rfl⟩⟩, StepKind.isTooSlow_iff.2 hkind⟩
  · rintro ⟨step, hstep, hkind⟩
    obtain ⟨i, sample, sample', hi, hi', hbetween⟩ := Sweep.mem_steps_iff.1 hstep
    obtain ⟨t, o, x, -, ho, -, -, rfl⟩ := h.getElem?_outcomes_iff.1 hi
    obtain ⟨t', o', x', ht', ho', -, -, rfl⟩ := h.getElem?_outcomes_iff.1 hi'
    obtain ⟨hpos, rfl⟩ := Step.between?_eq_some_iff.1 hbetween
    exact ⟨i, t', o, o', ht', ho, ho', hpos, StepKind.isTooSlow_iff.1 hkind⟩

/-- **What slows down a sweep in which all is well.** -/
theorem Sweeps.timely_eq_false_iff (h : Sweeps s s.threadCounts log swept)
    (hnone : swept.failure? = none)
    (hcorrect : (Sweep.assess s.cores s.range swept.outcomes).correct = true) :
    (Sweep.assess s.cores s.range swept.outcomes).timely = false ↔ LacksSpeedup s log := by
  obtain ⟨hne, hall⟩ := Sweep.correct_assess_iff.1 hcorrect
  rw [h.lacksSpeedup_iff ((h.forall_outcomes_iff hnone).1 hall), ← Bool.not_eq_true,
    Sweep.timely_assess_iff]
  constructor
  · intro htimely
    by_contra hsteps
    push Not at hsteps
    exact htimely ⟨hne, fun step hstep => Bool.eq_false_iff.2 (hsteps step hstep)⟩
  · rintro ⟨step, hstep, hkind⟩ ⟨-, htimely⟩
    exact absurd (hkind.symm.trans (htimely step hstep)) (by decide)

/-! ## The grade -/

/-- A sweep that is cut short is spoiled. -/
theorem Sweeps.spoiled_of_cut (h : Sweeps s s.threadCounts log swept)
    (hcut : swept.failure? ≠ none) : Spoiled s log := by
  obtain ⟨t, ht, made, hmem, hmade⟩ := h.exists_not_made hcut
  exact .build ht hmem hmade

/-- The grade of a sweep, by what its log says. -/
theorem Sweeps.grade_cases (h : Sweeps s s.threadCounts log swept) :
    (Spoiled s log ∧ (judgeSweep s swept).grade = .fail) ∨
      (¬ Spoiled s log ∧ LacksSpeedup s log ∧ (judgeSweep s swept).grade = .partly) ∨
      (¬ Spoiled s log ∧ ¬ LacksSpeedup s log ∧ (judgeSweep s swept).grade = .pass) := by
  cases hfailure : swept.failure? with
  | some failure =>
    have hcut : swept.failure? ≠ none := by
      rw [hfailure]
      exact Option.some_ne_none failure
    rw [judgeSweep, hfailure]
    exact .inl ⟨h.spoiled_of_cut hcut, rfl⟩
  | none =>
    rw [h.spoiled_iff hfailure, judgeSweep, hfailure]
    dsimp only
    cases hcorrect : (Sweep.assess s.cores s.range swept.outcomes).correct with
    | false => exact .inl ⟨rfl, rfl⟩
    | true =>
      rw [← h.timely_eq_false_iff hfailure hcorrect]
      cases (Sweep.assess s.cores s.range swept.outcomes).timely with
      | false => exact .inr (.inl ⟨Bool.noConfusion, rfl, rfl⟩)
      | true => exact .inr (.inr ⟨Bool.noConfusion, Bool.noConfusion, rfl⟩)

/-- **The grade of the parallel pi test**, by what was asked and answered: a fail if the test is
spoiled, and else the lower of the two other grades if it lacks speedup, and the higher one if it
does not. The test is never left out. If it is not spoiled, there is one run for each thread count,
in their order. -/
theorem grade_runPi {σ : Type} (subject : Subject σ) (s : PiSettings) (b : Bench σ) :
    ((runPi subject s b).1.grade = .fail ↔
        Spoiled s (Bench.log subject b (runPi subject s b).2)) ∧
      ((runPi subject s b).1.grade = .partly ↔
        ¬ Spoiled s (Bench.log subject b (runPi subject s b).2) ∧
          LacksSpeedup s (Bench.log subject b (runPi subject s b).2)) ∧
      ((runPi subject s b).1.grade = .pass ↔
        ¬ Spoiled s (Bench.log subject b (runPi subject s b).2) ∧
          ¬ LacksSpeedup s (Bench.log subject b (runPi subject s b).2)) ∧
      (runPi subject s b).1.grade ≠ .notRun ∧
      (¬ Spoiled s (Bench.log subject b (runPi subject s b).2) →
        (Bench.log subject b (runPi subject s b).2).map Prod.fst =
          s.threadCounts.flatMap (requests s)) := by
  have hsweeps := sweeps_log subject s s.threadCounts b
  have hverdict : (runPi subject s b).1 =
      judgeSweep s (sweep subject s s.threadCounts b).1 := rfl
  have hbench : (runPi subject s b).2 = (sweep subject s s.threadCounts b).2 := rfl
  rw [hverdict, hbench]
  have hrequests (hspoiled : ¬ Spoiled s _) := hsweeps.map_fst_eq
    (by_contra fun hcut => hspoiled (hsweeps.spoiled_of_cut hcut))
  rcases hsweeps.grade_cases with ⟨hs, hg⟩ | ⟨hs, hl, hg⟩ | ⟨hs, hl, hg⟩
  · simp [hg, hs]
  · simp [hg, hs, hl, hrequests]
  · simp [hg, hs, hl, hrequests]

end Suite
end Autograder
