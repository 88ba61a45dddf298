/-
# What the judgments of a sweep look at

Each judgment looks at a part of the outcomes only, so two sweeps that agree in that part are judged
alike (`judgments_independent`).

| judgment | looks at | does not look at |
| --- | --- | --- |
| correct | the estimates, which runs failed, the range | threads, runtimes, cores |
| timely, the steps | threads, runtimes, which runs failed, the cores | estimates, the range |

With fewer cores, the steps are the same but for their kinds (`steps_eq_map_onCores`). A step may
only go from within the cores to beyond them, where no step is too slow.
-/

import Autograder.Proofs.Sweep.Speedup

namespace Autograder
namespace Outcome

/-- The estimate of a run, unless it failed. -/
def estimate? (o : Outcome) : Option Float := o.sample?.map (·.estimate)

/-- The threads of a run and its runtime, unless it failed. -/
def timing? (o : Outcome) : Option (Nat × Float) := o.sample?.map fun s => (s.threads, s.seconds)

theorem isCorrect_eq (range : EstimateRange) (o : Outcome) :
    o.isCorrect range = o.estimate?.any range.contains := by
  cases o <;> rfl

end Outcome

namespace Step

/-- The threads and the ratio of a step, which tell all of it but its kind. -/
def measure (s : Step) : Nat × Nat × Float := (s.fromThreads, s.toThreads, s.ratio)

/-- The same step with another number of cores. -/
def onCores (cores : Nat) (s : Step) : Step :=
  { s with kind := .classify s.ratio s.toThreads cores }

/-- The step between two runs, by their timings. -/
def ofTimings? (cores : Nat) : Option (Nat × Float) × Option (Nat × Float) → Option Step
  | (some earlier, some later) =>
    if 0.0 < earlier.2 then
      some ⟨earlier.1, later.1, later.2 / earlier.2, .classify (later.2 / earlier.2) later.1 cores⟩
    else none
  | (none, _) | (_, none) => none

theorem between?_eq_map_onCores (cores cores' : Nat) (earlier later : Sample) :
    between? cores' earlier later = (between? cores earlier later).map (onCores cores') := by
  unfold between?
  split <;> rfl

end Step

namespace Sweep

variable {cores cores' : Nat} {os os' : List Outcome}

/-- **The estimates settle whether a sweep is correct.** -/
theorem correct_assess_eq (cores : Nat) (range : EstimateRange) (os : List Outcome) :
    (assess cores range os).correct =
      (!(os.map Outcome.estimate?).isEmpty &&
        (os.map Outcome.estimate?).all fun estimate => estimate.any range.contains) := by
  cases os with
  | nil => rfl
  | cons o os =>
    have hassess : (assess cores range (o :: os)).correct =
        (o :: os).all (Outcome.isCorrect range) := rfl
    rw [hassess, List.all_map, funext (Outcome.isCorrect_eq range)]
    rfl

/-- **The timings settle the steps of a sweep.** -/
theorem steps_eq_ofTimings? (cores : Nat) (os : List Outcome) :
    steps cores os = ((os.map Outcome.timing?).zip (os.map Outcome.timing?).tail).filterMap
      (Step.ofTimings? cores) := by
  have hstep (p : Outcome × Outcome) :
      stepBetween? cores p = Step.ofTimings? cores (p.1.timing?, p.2.timing?) := by
    obtain ⟨o, o'⟩ := p
    cases o with
    | failed threads reason => rfl
    | measured s => cases o' <;> rfl
  rw [steps_eq, funext hstep, ← List.map_tail, List.zip_map, List.filterMap_map]
  rfl

/-- The steps settle whether a sweep with outcomes is timely. -/
theorem timely_assess_eq (cores : Nat) (range : EstimateRange) (os : List Outcome) :
    (assess cores range os).timely =
      (!os.isEmpty && (steps cores os).all fun step => !step.kind.isTooSlow) := by
  cases os <;> rfl

/-- **On other cores, a sweep has the same steps** of other kinds. -/
theorem steps_eq_map_onCores (cores cores' : Nat) (os : List Outcome) :
    steps cores' os = (steps cores os).map (Step.onCores cores') := by
  have hstep (p : Option Sample × Outcome) :
      stepTo? cores' p = (stepTo? cores p).map (Step.onCores cores') := by
    obtain ⟨earlier, o⟩ := p
    cases earlier with
    | none => rfl
    | some e =>
      cases o with
      | failed threads reason => rfl
      | measured s => exact Step.between?_eq_map_onCores cores cores' e s
  rw [steps, steps, List.map_filterMap, funext hstep]

/-- **On fewer cores, a timely sweep stays timely.** -/
theorem timely_of_le {range : EstimateRange} (hle : cores' ≤ cores)
    (h : (assess cores range os).timely = true) : (assess cores' range os).timely = true := by
  obtain ⟨hos, hsteps⟩ := timely_assess_iff.1 h
  refine timely_assess_iff.2 ⟨hos, fun step' hstep' => ?_⟩
  rw [steps_eq_map_onCores cores] at hstep'
  obtain ⟨step, hstep, rfl⟩ := List.mem_map.1 hstep'
  -- What is too slow on fewer cores is within them, so it is too slow on all of the cores.
  have hfast := hsteps step hstep
  rw [kind_of_mem_steps hstep, ← Bool.not_eq_true, StepKind.isTooSlow_classify_iff] at hfast
  rw [Step.onCores, ← Bool.not_eq_true, StepKind.isTooSlow_classify_iff]
  exact fun hslow => hfast ⟨hslow.1.trans hle, hslow.2⟩

/-- **The judgments of a sweep are independent of each other.** Two sweeps with the same estimates
are both correct or both not, whatever their threads and runtimes and on any cores. Two sweeps with
the same timings have the same steps, and are both timely or both not, whatever their estimates and
the range. On fewer cores, a timely sweep stays timely, and on any cores, the steps join the same
threads with the same ratios. -/
theorem judgments_independent (cores cores' : Nat) (range range' : EstimateRange)
    (os os' : List Outcome) :
    (os.map Outcome.estimate? = os'.map Outcome.estimate? →
        (assess cores range os).correct = (assess cores' range os').correct) ∧
      (os.map Outcome.timing? = os'.map Outcome.timing? →
        (assess cores range os).steps = (assess cores range' os').steps ∧
          (assess cores range os).timely = (assess cores range' os').timely) ∧
      (cores' ≤ cores → (assess cores range os).timely = true →
        (assess cores' range os).timely = true) ∧
      (assess cores' range os).steps.map Step.measure =
        (assess cores range os).steps.map Step.measure := by
  refine ⟨fun hestimates => ?_, fun htimings => ?_, timely_of_le, ?_⟩
  · rw [correct_assess_eq, correct_assess_eq, hestimates]
  · have hempty : os.isEmpty = os'.isEmpty := by
      rw [← List.isEmpty_map (f := Outcome.timing?), htimings, List.isEmpty_map]
    have hsteps : steps cores os = steps cores os' := by
      rw [steps_eq_ofTimings?, htimings, ← steps_eq_ofTimings?]
    rw [steps_assess, steps_assess, timely_assess_eq, timely_assess_eq, hempty, hsteps]
    exact ⟨rfl, rfl⟩
  · rw [steps_assess, steps_assess, steps_eq_map_onCores cores cores', List.map_map]
    rfl

/-- Three runs, seen beside slower ones with the same estimates and beside ones as fast with other
estimates, the second of which failed throughout. -/
theorem judgments_independent_three_runs :
    let narrow : EstimateRange := ⟨3.14, 3.15⟩
    let wide : EstimateRange := ⟨3.0, 3.2⟩
    let os : List Outcome :=
      [.measured ⟨1, 8.0, 3.141⟩, .failed 2 "timed out", .measured ⟨2, 4.0, 3.142⟩,
        .measured ⟨4, 2.0, 3.143⟩]
    let slower : List Outcome :=
      [.measured ⟨1, 1.0, 3.141⟩, .failed 8 "did not start", .measured ⟨3, 5.0, 3.142⟩,
        .measured ⟨9, 5.0, 3.143⟩]
    let wrong : List Outcome :=
      [.measured ⟨1, 8.0, 2.0⟩, .failed 8 "did not start", .measured ⟨2, 4.0, 9.0⟩,
        .measured ⟨4, 2.0, 0.0⟩]
    (os.map Outcome.estimate? = slower.map Outcome.estimate? ∧
        os.map Outcome.timing? = wrong.map Outcome.timing? ∧ 2 ≤ 4 ∧
        (assess 4 narrow os).timely = true) ∧
      (assess 4 narrow os).correct = (assess 2 narrow slower).correct ∧
      ((assess 4 narrow os).steps = (assess 4 wide wrong).steps ∧
        (assess 4 narrow os).timely = (assess 4 wide wrong).timely) ∧
      (assess 2 narrow os).timely = true ∧
      (assess 2 narrow os).steps.map Step.measure =
        (assess 4 narrow os).steps.map Step.measure := by
  intro narrow wide os slower wrong
  have hestimates : os.map Outcome.estimate? = slower.map Outcome.estimate? :=
    calc os.map Outcome.estimate? = [some 3.141, none, some 3.142, some 3.143] := rfl
      _ = slower.map Outcome.estimate? := rfl
  have htimings : os.map Outcome.timing? = wrong.map Outcome.timing? :=
    calc os.map Outcome.timing? = [some (1, 8.0), none, some (2, 4.0), some (4, 2.0)] := rfl
      _ = wrong.map Outcome.timing? := rfl
  have htimely : (assess 4 narrow os).timely = true := by decide
  have hfewer : 2 ≤ 4 := by decide
  obtain ⟨hcorrect, -, hstays, hmeasures⟩ := judgments_independent 4 2 narrow wide os slower
  obtain ⟨-, hsteps, -, -⟩ := judgments_independent 4 2 narrow wide os wrong
  exact ⟨⟨hestimates, htimings, hfewer, htimely⟩, hcorrect hestimates, hsteps htimings,
    hstays hfewer htimely, hmeasures⟩

end Sweep
end Autograder
