/-
# The steps of a sweep with more and more threads

If each run of a sweep has more threads than the run before it, the steps stand in order: a step
leads to more threads, and starts at no fewer than the steps before it led to (`pairwise_steps`).
Whether a step goes beyond the cores depends on the threads that it leads to
(`isOversubscribed_classify_iff`), so once a step does, all later ones do too, and none of them can
be too slow.
-/

import Autograder.Proofs.Sweep.Judgment
import Mathlib.Tactic.SplitIfs

namespace Autograder

/-- A step of this kind leads to more threads than there are cores. -/
def StepKind.IsOversubscribed (k : StepKind) : Prop := k = .oversubscribed ∨ k = .oversubscribedFlat

theorem StepKind.isOversubscribed_classify_iff {ratio : Float} {threads cores : Nat} :
    (classify ratio threads cores).IsOversubscribed ↔ cores < threads := by
  rw [← Nat.not_le, classify, IsOversubscribed]
  split_ifs with hwithin <;> simp [hwithin]

/-- A step beyond the cores is never too slow. -/
theorem StepKind.IsOversubscribed.isTooSlow_eq_false {k : StepKind} (h : k.IsOversubscribed) :
    k.isTooSlow = false := by
  rcases h with rfl | rfl <;> rfl

/-- Of two pairs of neighbours in a list, the earlier ends where the later begins, or before. -/
theorem pairwise_zip_tail {α : Type} {R : α → α → Prop} {l : List α} (h : l.Pairwise R) :
    (l.zip l.tail).Pairwise fun p q => p.2 = q.1 ∨ R p.2 q.1 := by
  induction l with
  | nil => exact .nil
  | cons x l ih =>
    cases l with
    | nil => exact .nil
    | cons y rest =>
      obtain ⟨-, hrest⟩ := List.pairwise_cons.1 h
      refine List.pairwise_cons.2 ⟨fun q hq => ?_, ih hrest⟩
      rcases List.mem_cons.1 (List.of_mem_zip hq).1 with hy | hmem
      · exact .inl hy.symm
      · exact .inr ((List.pairwise_cons.1 hrest).1 _ hmem)

namespace Sweep

variable {cores : Nat} {range : EstimateRange} {os : List Outcome}

theorem steps_assess (cores : Nat) (range : EstimateRange) (os : List Outcome) :
    (assess cores range os).steps = steps cores os := by
  cases os <;> rfl

/-- The kind of a step is that of its ratio and of the threads it leads to. -/
theorem kind_of_mem_steps {step : Step} (h : step ∈ steps cores os) :
    step.kind = .classify step.ratio step.toThreads cores := by
  obtain ⟨i, s, s', -, -, hbetween⟩ := mem_steps_iff.1 h
  obtain ⟨-, rfl⟩ := Step.between?_eq_some_iff.1 hbetween
  rfl

/-- **A step joins two neighbouring thread counts.** -/
theorem exists_threads_of_mem_steps {step : Step} (h : step ∈ steps cores os) :
    ∃ i, (os.map Outcome.threads)[i]? = some step.fromThreads ∧
      (os.map Outcome.threads)[i + 1]? = some step.toThreads := by
  obtain ⟨i, s, s', hi, hi', hbetween⟩ := mem_steps_iff.1 h
  obtain ⟨-, rfl⟩ := Step.between?_eq_some_iff.1 hbetween
  refine ⟨i, ?_, ?_⟩
  · rw [List.getElem?_map, hi]
    rfl
  · rw [List.getElem?_map, hi']
    rfl

/-- With more and more threads, a step leads to more threads than it starts at. -/
theorem fromThreads_lt_of_mem_steps (hos : (os.map Outcome.threads).Pairwise (· < ·)) {step : Step}
    (h : step ∈ steps cores os) : step.fromThreads < step.toThreads := by
  obtain ⟨i, hi, hi'⟩ := exists_threads_of_mem_steps h
  obtain ⟨hlt, hfrom⟩ := List.getElem?_eq_some_iff.1 hi
  obtain ⟨hlt', hto⟩ := List.getElem?_eq_some_iff.1 hi'
  have hless := List.pairwise_iff_getElem.1 hos i (i + 1) hlt hlt' (Nat.lt_succ_self i)
  rwa [hfrom, hto] at hless

/-- **With more and more threads, a step starts where the one before it led to, or further on.** -/
theorem pairwise_steps (hos : (os.map Outcome.threads).Pairwise (· < ·)) :
    (steps cores os).Pairwise fun a b => a.toThreads ≤ b.fromThreads := by
  rw [steps_eq]
  have hneighbours := pairwise_zip_tail (List.pairwise_map.1 hos)
  refine hneighbours.filterMap _ fun p q hpq a ha b hb => ?_
  obtain ⟨s, s', -, hs', hbetween⟩ := stepBetween?_eq_some_iff.1 ha
  obtain ⟨r, r', hr, -, hbetween'⟩ := stepBetween?_eq_some_iff.1 hb
  obtain ⟨-, rfl⟩ := Step.between?_eq_some_iff.1 hbetween
  obtain ⟨-, rfl⟩ := Step.between?_eq_some_iff.1 hbetween'
  rw [hs', hr] at hpq
  rcases hpq with heq | hlt
  · cases heq
    exact Nat.le_refl _
  · exact Nat.le_of_lt hlt

/-- **Once a step goes beyond the cores, all later steps do**, if there are more and more
threads. -/
theorem pairwise_isOversubscribed (hos : (os.map Outcome.threads).Pairwise (· < ·)) :
    (steps cores os).Pairwise fun a b => a.kind.IsOversubscribed → b.kind.IsOversubscribed := by
  refine (pairwise_steps hos).imp_of_mem fun {a b} ha hb hab hbeyond => ?_
  have hless := fromThreads_lt_of_mem_steps hos hb
  rw [kind_of_mem_steps ha, StepKind.isOversubscribed_classify_iff] at hbeyond
  rw [kind_of_mem_steps hb, StepKind.isOversubscribed_classify_iff]
  omega

end Sweep
end Autograder
