/-
# The diagnostics of a sweep, block by block

There is a block of diagnostics for each outcome, in the order of the outcomes, and a block is a
matter of its outcome and the one right before it (`blockAfter`). It holds up to three lines:

| line | said of |
| --- | --- |
| `outcomeLine` | every outcome |
| `outsideLine?` | a run with an estimate outside the range |
| `stepLine?` | a measured run right after a measured one |

So all that is said of a sweep is, up to its order, one line for each outcome, each estimate outside
and each pair of measured neighbours (`perm_diagnostics`). All numbers of lines follow from that.
-/

import Autograder.Proofs.Sweep.Remarks
import Autograder.Proofs.Sweep.Rules
import Mathlib.Data.List.Perm.Basic

namespace Autograder
namespace Outcome

/-- The run failed. -/
def isFailed : Outcome → Bool
  | .measured _ => false
  | .failed _ _ => true

/-- The run gave an estimate that is not in the range. -/
def isOutside (range : EstimateRange) : Outcome → Bool
  | .measured s => !range.contains s.estimate
  | .failed _ _ => false

end Outcome

namespace Sweep

/-- Both of two neighbours were measured. -/
def areMeasured : Outcome × Outcome → Bool
  | (.measured _, .measured _) => true
  | (.failed _ _, _) | (_, .failed _ _) => false

/-- Both of two neighbours were measured, and the earlier took no time to divide by. -/
def areUntimed : Outcome × Outcome → Bool
  | (.measured earlier, .measured _) => !decide (0.0 < earlier.seconds)
  | (.failed _ _, _) | (_, .failed _ _) => false

/-- The line about an estimate, if it is not in the range. -/
def outsideLine? (range : EstimateRange) : Outcome → Option Diagnostic
  | .measured s => if range.contains s.estimate then none else some (outsideLine range s)
  | .failed _ _ => none

/-- The line about a measured run and the measured one before it. -/
def stepLine? (cores : Nat) : Option Sample × Outcome → Option Diagnostic
  | (some earlier, .measured later) => some (stepDiagnostic cores earlier later)
  | (none, _) | (_, .failed _ _) => none

/-- What there is to say about an outcome, given the outcome right before it, if there is one. -/
def blockAfter (cores : Nat) (range : EstimateRange) (previous : Option Outcome) (o : Outcome) :
    List Diagnostic :=
  block cores range (previous.bind Outcome.sample?, o)

variable {cores : Nat} {range : EstimateRange} {os : List Outcome}

/-! ## Blocks -/

/-- The lines of a block. -/
theorem block_eq (cores : Nat) (range : EstimateRange) (p : Option Sample × Outcome) :
    block cores range p =
      outcomeLine p.2 :: ((outsideLine? range p.2).toList ++ (stepLine? cores p).toList) := by
  obtain ⟨earlier, o⟩ := p
  cases o with
  | failed threads reason => cases earlier <;> rfl
  | measured s =>
    rw [block, outsideLine?]
    cases earlier <;> cases range.contains s.estimate <;> rfl

/-- **A sweep is told block by block.** -/
theorem diagnostics_eq_flatMap (hos : os ≠ []) :
    (assess cores range os).diagnostics =
      ((none :: os.map some).zip os).flatMap fun p => blockAfter cores range p.1 p.2 := by
  have hviews : (none :: os.map Outcome.sample?) =
      (none :: os.map some).map fun previous => previous.bind Outcome.sample? := by
    rw [List.map_cons, List.map_map]
    rfl
  rw [diagnostics_assess hos, withEarlier_eq_zip, hviews, List.zip_map_left, List.flatMap_map]
  rfl

/-! ## Lines -/

theorem map_snd_withEarlier (earlier : Option Sample) (os : List Outcome) :
    (withEarlier earlier os).map Prod.snd = os := by
  rw [withEarlier_eq_zip, List.map_snd_zip]
  rw [List.length_cons, List.length_map]
  exact Nat.le_succ _

/-- **All that is said of a sweep**, up to its order. -/
theorem perm_diagnostics (hos : os ≠ []) :
    (os.map outcomeLine ++ (os.filterMap (outsideLine? range) ++
      (os.zip os.tail).filterMap fun p => stepLine? cores (p.1.sample?, p.2))).Perm
        (assess cores range os).diagnostics := by
  have houtcomes : os.map outcomeLine = (withEarlier none os).map fun p => outcomeLine p.2 :=
    calc os.map outcomeLine = ((withEarlier none os).map Prod.snd).map outcomeLine := by
          rw [map_snd_withEarlier]
      _ = (withEarlier none os).map fun p => outcomeLine p.2 := List.map_map
  have houtside : os.filterMap (outsideLine? range) =
      (withEarlier none os).flatMap fun p => (outsideLine? range p.2).toList :=
    calc os.filterMap (outsideLine? range) =
          ((withEarlier none os).map Prod.snd).filterMap (outsideLine? range) := by
          rw [map_snd_withEarlier]
      _ = (withEarlier none os).filterMap fun p => outsideLine? range p.2 := List.filterMap_map
      _ = (withEarlier none os).flatMap fun p => (outsideLine? range p.2).toList :=
          List.filterMap_eq_flatMap_toList _ _
  have hsteps : ((os.zip os.tail).filterMap fun p => stepLine? cores (p.1.sample?, p.2)) =
      (withEarlier none os).flatMap fun p => (stepLine? cores p).toList := by
    rw [← filterMap_withEarlier (fun _ => rfl) os]
    exact List.filterMap_eq_flatMap_toList _ _
  rw [diagnostics_assess hos, funext (block_eq cores range), houtcomes, houtside, hsteps]
  exact ((List.flatMap_append_perm _ _ _).append_left _).trans (List.map_append_flatMap_perm _ _ _)

/-! ## Numbers of lines -/

/-- Of what holds in one of two ways, but not in both, there is as much as in the two together. -/
theorem countP_add {α : Type} {p q r : α → Bool} (h : ∀ x, (r x).toNat = (p x).toNat + (q x).toNat)
    (l : List α) : l.countP r = l.countP p + l.countP q := by
  induction l with
  | nil => rfl
  | cons x l ih =>
    have hcons (f : α → Bool) : (x :: l).countP f = l.countP f + (f x).toNat := by
      rw [List.countP_cons]
      cases f x <;> rfl
    rw [hcons, hcons, hcons, ih, h x]
    omega

theorem map_severity_outsideLine? (range : EstimateRange) (o : Outcome) :
    (outsideLine? range o).map Diagnostic.severity =
      if o.isOutside range then some .failure else none := by
  cases o with
  | failed threads reason => rfl
  | measured s =>
    rw [outsideLine?, Outcome.isOutside]
    cases range.contains s.estimate <;> rfl

/-- The line about two neighbours weighs what their step does, and is a warning without one. -/
theorem map_severity_stepLine? (cores : Nat) (p : Outcome × Outcome) :
    (stepLine? cores (p.1.sample?, p.2)).map Diagnostic.severity =
      if areUntimed p then some .warning else (stepBetween? cores p).map (·.kind.severity) := by
  obtain ⟨o, o'⟩ := p
  cases o with
  | failed threads reason => cases o' <;> rfl
  | measured s =>
    cases o' with
    | failed threads reason => rfl
    | measured s' =>
      have hstep : stepBetween? cores (.measured s, .measured s') = Step.between? cores s s' := rfl
      have hline : stepLine? cores ((Outcome.measured s).sample?, .measured s') =
          some (stepDiagnostic cores s s') := rfl
      rw [hstep, hline, areUntimed, stepDiagnostic]
      unfold Step.between?
      split <;> simp_all [Diagnostic.warning]

theorem stepBetween?_of_areUntimed {p : Outcome × Outcome} (h : areUntimed p = true) :
    stepBetween? cores p = none := by
  obtain ⟨o, o'⟩ := p
  cases o with
  | failed threads reason => rfl
  | measured s =>
    cases o' with
    | failed threads reason => rfl
    | measured s' =>
      have hzero : ¬ 0.0 < s.seconds := by simpa [areUntimed] using h
      exact if_neg hzero

/-- Measured neighbours have a step between them, or else no time to divide by. -/
theorem toNat_areMeasured (cores : Nat) (p : Outcome × Outcome) :
    (areMeasured p).toNat = (areUntimed p).toNat + (stepBetween? cores p).isSome.toNat := by
  obtain ⟨o, o'⟩ := p
  cases o with
  | failed threads reason => rfl
  | measured s =>
    cases o' with
    | failed threads reason => rfl
    | measured s' =>
      have hstep : stepBetween? cores (.measured s, .measured s') = Step.between? cores s s' := rfl
      rw [hstep, areMeasured, areUntimed, Step.between?]
      split <;> simp_all

/-- **Lines of a weight** are counted among the outcomes, the estimates outside, the neighbours
without a step, and the steps. -/
theorem countP_diagnostics (cores : Nat) (range : EstimateRange) (hos : os ≠ [])
    (weighs : Severity → Bool) :
    (assess cores range os).diagnostics.countP (fun d => weighs d.severity) =
      os.countP (fun o => weighs (outcomeLine o).severity) +
        os.countP (fun o => o.isOutside range && weighs .failure) +
          ((os.zip os.tail).countP (fun p => areUntimed p && weighs .warning) +
            (assess cores range os).steps.countP fun step => weighs step.kind.severity) := by
  have houtside : (os.filterMap fun o => (outsideLine? range o).map Diagnostic.severity).countP
      weighs = os.countP fun o => o.isOutside range && weighs .failure := by
    rw [List.countP_filterMap]
    refine List.countP_congr fun o _ => ?_
    rw [map_severity_outsideLine?]
    cases o.isOutside range <;> simp
  have hsteps : ((os.zip os.tail).filterMap fun p =>
        (stepLine? cores (p.1.sample?, p.2)).map Diagnostic.severity).countP weighs =
      (os.zip os.tail).countP (fun p => areUntimed p && weighs .warning) +
        (assess cores range os).steps.countP fun step => weighs step.kind.severity := by
    rw [steps_assess, steps_eq, List.countP_filterMap, List.countP_filterMap]
    refine countP_add (fun p => ?_) _
    rw [map_severity_stepLine?]
    cases h : areUntimed p with
    | true => simp [stepBetween?_of_areUntimed h]
    | false => simp [Function.comp_def]
  have hmap : (assess cores range os).diagnostics.countP (fun d => weighs d.severity) =
      ((assess cores range os).diagnostics.map Diagnostic.severity).countP weighs :=
    List.countP_map.symm
  rw [hmap, ← ((perm_diagnostics hos).map Diagnostic.severity).countP_eq, List.map_append,
    List.map_append, List.map_filterMap, List.map_filterMap, List.countP_append,
    List.countP_append, houtside, hsteps, List.map_map, List.countP_map, Nat.add_assoc]
  rfl

/-- **Failures** are said of failed runs, of estimates outside, and of steps without any speedup. -/
theorem countP_failure (hos : os ≠ []) :
    (assess cores range os).diagnostics.countP (·.severity == .failure) =
      os.countP Outcome.isFailed + os.countP (Outcome.isOutside range) +
        (assess cores range os).steps.countP (·.kind == .noSpeedup) := by
  have houtcome (o : Outcome) : ((outcomeLine o).severity == .failure) = o.isFailed := by
    cases o <;> rfl
  have hkind (k : StepKind) : (k.severity == .failure) = (k == .noSpeedup) := by
    cases k <;> rfl
  have hsame : (Severity.failure == .failure) = true := rfl
  have hother : (Severity.warning == .failure) = false := rfl
  rw [countP_diagnostics cores range hos (· == .failure)]
  simp only [houtcome, hkind, hsame, hother, Bool.and_true, Bool.and_false, List.countP_false,
    Function.const_apply, Nat.zero_add]

/-- **Warnings** are said of steps with a weak speedup, of flat steps beyond the cores, and of
neighbours without a time to divide by. -/
theorem warnings_eq (hos : os ≠ []) :
    (assess cores range os).warnings =
      (assess cores range os).steps.countP (·.kind == .weakSpeedup) +
        (assess cores range os).steps.countP (·.kind == .oversubscribedFlat) +
          (os.zip os.tail).countP areUntimed := by
  have houtcome (o : Outcome) : ((outcomeLine o).severity == .warning) = false := by
    cases o <;> rfl
  have hkinds : (assess cores range os).steps.countP (·.kind.severity == .warning) =
      (assess cores range os).steps.countP (·.kind == .weakSpeedup) +
        (assess cores range os).steps.countP (·.kind == .oversubscribedFlat) := by
    refine countP_add (fun step => ?_) _
    cases step.kind <;> rfl
  have hsame : (Severity.warning == .warning) = true := rfl
  have hother : (Severity.failure == .warning) = false := rfl
  rw [Assessment.warnings, ← List.countP_eq_length_filter,
    countP_diagnostics cores range hos (· == .warning), hkinds]
  simp only [houtcome, hsame, hother, Bool.and_true, Bool.and_false, List.countP_false,
    Function.const_apply, Nat.zero_add]
  exact Nat.add_comm _ _

/-- **All lines** are said of outcomes, of estimates outside, and of measured neighbours. -/
theorem length_diagnostics (hos : os ≠ []) :
    (assess cores range os).diagnostics.length =
      os.length + os.countP (Outcome.isOutside range) + (os.zip os.tail).countP areMeasured := by
  have hcount := countP_diagnostics cores range hos fun _ => true
  simp only [Bool.and_true, List.countP_true] at hcount
  rw [hcount, countP_add (toNat_areMeasured cores), ← List.length_filterMap_eq_countP, ← steps_eq,
    steps_assess]

/-! ## Two parts -/

/-- **A failed run parts what is said of a sweep**: nothing behind it tells of anything before. -/
theorem diagnostics_append_failed (cores : Nat) (range : EstimateRange)
    {before after : List Outcome} (threads : Nat) (reason : String) (hbefore : before ≠ [])
    (hafter : after ≠ []) :
    (assess cores range (before ++ .failed threads reason :: after)).diagnostics =
      (assess cores range before).diagnostics ++
        failedLine threads reason :: (assess cores range after).diagnostics := by
  have hall : before ++ .failed threads reason :: after ≠ [] :=
    List.append_ne_nil_of_left_ne_nil hbefore _
  rw [diagnostics_assess hall, diagnostics_assess hbefore, diagnostics_assess hafter,
    withEarlier_append, withEarlier, List.flatMap_append, List.flatMap_cons]
  rfl

/-- **The diagnostics of a sweep leave nothing out and say nothing twice.** There is a block for
each outcome, which tells of this outcome and the one before it only. So there are as many lines,
and as many failures and warnings among them, as there is something to tell of, and what is said of
a sweep with a failed run in its midst is what is said of the two parts. -/
theorem assess_tells_all (cores : Nat) (range : EstimateRange) {os : List Outcome} (hos : os ≠ []) :
    (assess cores range os).diagnostics =
        ((none :: os.map some).zip os).flatMap (fun p => blockAfter cores range p.1 p.2) ∧
      (assess cores range os).diagnostics.countP (·.severity == .failure) =
        os.countP Outcome.isFailed + os.countP (Outcome.isOutside range) +
          (assess cores range os).steps.countP (·.kind == .noSpeedup) ∧
      (assess cores range os).warnings =
        (assess cores range os).steps.countP (·.kind == .weakSpeedup) +
          (assess cores range os).steps.countP (·.kind == .oversubscribedFlat) +
            (os.zip os.tail).countP areUntimed ∧
      (assess cores range os).diagnostics.length =
        os.length + os.countP (Outcome.isOutside range) + (os.zip os.tail).countP areMeasured ∧
      ∀ before threads reason after, before ≠ [] → after ≠ [] →
        os = before ++ .failed threads reason :: after →
          (assess cores range os).diagnostics =
            (assess cores range before).diagnostics ++
              failedLine threads reason :: (assess cores range after).diagnostics ∧
          (assess cores range os).steps =
            (assess cores range before).steps ++ (assess cores range after).steps := by
  refine ⟨diagnostics_eq_flatMap hos, countP_failure hos, warnings_eq hos,
    length_diagnostics hos, ?_⟩
  rintro before threads reason after hbefore hafter rfl
  refine ⟨diagnostics_append_failed cores range threads reason hbefore hafter, ?_⟩
  rw [steps_assess, steps_assess, steps_assess, steps_append_failed]

/-- Two runs, the second slower and with an estimate outside, then one that failed, and then two of
which the earlier took no time. -/
theorem assess_tells_all_five_runs :
    let range : EstimateRange := ⟨3.14, 3.15⟩
    let before : List Outcome := [.measured ⟨1, 10.0, 3.141⟩, .measured ⟨2, 12.0, 2.0⟩]
    let after : List Outcome := [.measured ⟨4, 0.0, 3.141⟩, .measured ⟨8, 1.0, 3.141⟩]
    let os := before ++ .failed 3 "timed out" :: after
    os ≠ [] ∧
      (assess 4 range os).diagnostics.countP (·.severity == .failure) = 3 ∧
      (assess 4 range os).warnings = 1 ∧
      (assess 4 range os).diagnostics.length = 8 ∧
      (assess 4 range os).diagnostics =
        (assess 4 range before).diagnostics ++
          failedLine 3 "timed out" :: (assess 4 range after).diagnostics := by
  intro range before after os
  have hos : os ≠ [] := List.cons_ne_nil _ _
  obtain ⟨-, hfailures, hwarnings, hlength, hparts⟩ := assess_tells_all 4 range hos
  refine ⟨hos, hfailures.trans (by decide), hwarnings.trans (by decide), hlength.trans (by decide),
    (hparts before 3 "timed out" after ?_ ?_ rfl).1⟩
  · exact List.cons_ne_nil _ _
  · exact List.cons_ne_nil _ _

end Sweep
end Autograder
