/-
# From verdicts to a report

A report has an entry for each test. The verdict that counts is the first one on the test, and
without any the test was not run (`isVerdictOn_iff`). So later verdicts on a test change nothing
(`assemble_congr`), and neither does the order of verdicts on different tests (`assemble_perm`).

A score is shown with one place. This is enough for each score and for their total: what is shown
is read as the very number (`shows_score`, `shows_total`).
-/

import Autograder.Number.Reader
import Autograder.Proofs.Report.RoundTrip

namespace Autograder

/-! ## The verdict that counts -/

/-- The verdict on a test among some verdicts: the first on this test, or that it was not run. -/
inductive IsVerdictOn (verdicts : List Verdict) (c : Category) : Verdict → Prop
  | first {before after : List Verdict} {v : Verdict} : verdicts = before ++ v :: after →
      v.category = c → (∀ u ∈ before, u.category ≠ c) → IsVerdictOn verdicts c v
  | notRun : (∀ u ∈ verdicts, u.category ≠ c) → IsVerdictOn verdicts c (.notRun c)

namespace Report

variable {verdicts verdicts' : List Verdict} {c : Category} {v : Verdict}

theorem verdictOn_of_find? {o : Option Verdict}
    (h : verdicts.find? (fun u => u.category == c) = o) :
    verdictOn verdicts c = o.getD (.notRun c) := by rw [verdictOn, h]

theorem isVerdictOn_verdictOn (verdicts : List Verdict) (c : Category) :
    IsVerdictOn verdicts c (verdictOn verdicts c) := by
  cases hfind : verdicts.find? fun u => u.category == c with
  | none =>
    rw [verdictOn_of_find? hfind]
    exact .notRun fun u hu => by simpa using List.find?_eq_none.1 hfind u hu
  | some v =>
    rw [verdictOn_of_find? hfind]
    obtain ⟨hc, before, after, hsplit, hbefore⟩ := List.find?_eq_some_iff_append.1 hfind
    exact .first hsplit (beq_iff_eq.1 hc) fun u hu => by simpa using hbefore u hu

theorem verdictOn_of_isVerdictOn (h : IsVerdictOn verdicts c v) : verdictOn verdicts c = v := by
  cases h with
  | first hsplit hc hbefore =>
    refine verdictOn_of_find? (o := some v) (List.find?_eq_some_iff_append.2 ?_)
    exact ⟨beq_iff_eq.2 hc, _, _, hsplit, fun u hu => by simpa using hbefore u hu⟩
  | notRun hnone =>
    refine verdictOn_of_find? (o := none) (List.find?_eq_none.2 fun u hu => ?_)
    simpa using hnone u hu

/-- **The first verdict on a test counts.** -/
theorem isVerdictOn_iff : IsVerdictOn verdicts c v ↔ verdictOn verdicts c = v := by
  refine ⟨verdictOn_of_isVerdictOn, ?_⟩
  rintro rfl
  exact isVerdictOn_verdictOn verdicts c

/-- With at most one verdict on each test, any of them is the first on its test. -/
theorem isVerdictOn_of_nodup (h : (verdicts.map Verdict.category).Nodup) (hv : v ∈ verdicts) :
    IsVerdictOn verdicts v.category v := by
  obtain ⟨before, after, rfl⟩ := List.append_of_mem hv
  refine .first rfl rfl fun u hu hcategory => ?_
  rw [List.map_append, List.map_cons, List.nodup_append] at h
  exact h.2.2 _ (List.mem_map_of_mem hu) _ (List.mem_cons_self ..) hcategory

/-- Verdicts on different tests may come in any order. -/
theorem verdictOn_perm (hperm : verdicts.Perm verdicts')
    (h : (verdicts.map Verdict.category).Nodup) (c : Category) :
    verdictOn verdicts c = verdictOn verdicts' c := by
  have h' : (verdicts'.map Verdict.category).Nodup := (hperm.map _).nodup_iff.1 h
  by_cases hc : ∃ v ∈ verdicts, v.category = c
  · obtain ⟨v, hv, rfl⟩ := hc
    rw [isVerdictOn_iff.1 (isVerdictOn_of_nodup h hv),
      isVerdictOn_iff.1 (isVerdictOn_of_nodup h' (hperm.subset hv))]
  · have hnone : ∀ u ∈ verdicts, u.category ≠ c := fun u hu huc => hc ⟨u, hu, huc⟩
    rw [isVerdictOn_iff.1 (.notRun hnone),
      isVerdictOn_iff.1 (.notRun fun u hu => hnone u (hperm.symm.subset hu))]

/-- **The verdicts that count make the report.** -/
theorem assemble_congr (h : ∀ c v, IsVerdictOn verdicts c v → IsVerdictOn verdicts' c v)
    (time : Instant) : assemble verdicts time = assemble verdicts' time := by
  have hsame : verdictOn verdicts = verdictOn verdicts' := funext fun c =>
    (isVerdictOn_iff.1 (h c _ (isVerdictOn_verdictOn verdicts c))).symm
  unfold assemble
  rw [hsame]

/-- **The order of verdicts on different tests does not count.** -/
theorem assemble_perm (hperm : verdicts.Perm verdicts')
    (h : (verdicts.map Verdict.category).Nodup) (time : Instant) :
    assemble verdicts time = assemble verdicts' time :=
  assemble_congr (fun c _ hv => isVerdictOn_iff.2
    ((verdictOn_perm hperm h c).symm.trans (isVerdictOn_iff.1 hv))) time

end Report

theorem IsVerdictOn.category {verdicts : List Verdict} {c : Category} {v : Verdict}
    (h : IsVerdictOn verdicts c v) : v.category = c := by
  cases h with
  | first _ hc _ => exact hc
  | notRun _ => rfl

/-! ## Scores as they are shown -/

/-- A text that is read as a number. -/
def Shows (text : String) (x : Float) : Prop := Number.read? text.toList = some x

theorem shows_of_eq {x : Float} (text : String) (hwritten : fixed 1 x = text)
    (hread : Number.read? text.toList = some x) : Shows (fixed 1 x) x := by
  rw [Shows, hwritten, hread]

/-- **One place is enough for a score.** -/
theorem shows_score {x : Float} (hx : x ∈ Verdict.scores) : Shows (fixed 1 x) x := by
  simp only [Verdict.scores, List.mem_cons, List.not_mem_nil, or_false] at hx
  rcases hx with rfl | rfl | rfl | rfl | rfl
  · exact shows_of_eq "0.0" (by decide +kernel) rfl
  · exact shows_of_eq "1.5" (by decide +kernel) rfl
  · exact shows_of_eq "3.0" (by decide +kernel) rfl
  · exact shows_of_eq "4.0" (by decide +kernel) rfl
  · exact shows_of_eq "6.0" (by decide +kernel) rfl

/-- The scores of a test. -/
def Category.scores : Category → List Float
  | .pi => [0.0, 1.5, 3.0]
  | .exchange => [0.0, 4.0, 6.0]

theorem Category.bounds_of_mem_scores (c : Category) :
    ∀ x ∈ c.scores, (0.0 : Float) ≤ x ∧ x ≤ c.maxScore := by
  cases c <;> decide +kernel

theorem Verdict.score_mem_scores (v : Verdict) : v.score ∈ v.category.scores := by
  obtain ⟨c, g, ds⟩ := v
  cases c <;> cases g <;> simp [Verdict.score, Category.scores, Category.maxScore,
    Category.partialScore]

/-- **One place is enough for the total.** -/
theorem shows_total {x y : Float} (hx : x ∈ Category.pi.scores)
    (hy : y ∈ Category.exchange.scores) :
    Shows (fixed 1 (-0.0 + x + y)) (-0.0 + x + y) := by
  simp only [Category.scores, List.mem_cons, List.not_mem_nil, or_false] at hx hy
  rcases hx with rfl | rfl | rfl <;> rcases hy with rfl | rfl | rfl
  · exact shows_of_eq "0.0" (by decide +kernel) rfl
  · exact shows_of_eq "4.0" (by decide +kernel) rfl
  · exact shows_of_eq "6.0" (by decide +kernel) rfl
  · exact shows_of_eq "1.5" (by decide +kernel) rfl
  · exact shows_of_eq "5.5" (by decide +kernel) rfl
  · exact shows_of_eq "7.5" (by decide +kernel) rfl
  · exact shows_of_eq "3.0" (by decide +kernel) rfl
  · exact shows_of_eq "7.0" (by decide +kernel) rfl
  · exact shows_of_eq "9.0" (by decide +kernel) rfl

/-- A sum may start from either zero. -/
theorem neg_zero_add_of_mem_scores {x : Float} (hx : x ∈ Category.pi.scores) :
    -0.0 + x = 0.0 + x := by
  simp only [Category.scores, List.mem_cons, List.not_mem_nil, or_false] at hx
  rcases hx with rfl | rfl | rfl <;> rfl

namespace Report

/-! ## The report -/

variable (verdicts : List Verdict) (time : Instant)

theorem score_verdictOn_mem (c : Category) : (verdictOn verdicts c).score ∈ c.scores := by
  have hmem := (verdictOn verdicts c).score_mem_scores
  rwa [(isVerdictOn_verdictOn verdicts c).category] at hmem

theorem totalScore_assemble :
    (assemble verdicts time).totalScore =
      -0.0 + (verdictOn verdicts .pi).score + (verdictOn verdicts .exchange).score := rfl

/-- **The total is the number that the line of the report shows.** -/
theorem output_assemble :
    (assemble verdicts time).output = "Graded at " ++ time.text ++ ". Total " ++
      fixed 1 (assemble verdicts time).totalScore ++ "/9.0" := by
  have hmax : "/" ++ fixed 1 (sum (Category.all.map Category.maxScore)) = "/9.0" := by
    decide +kernel
  have hsum : sum ((Category.all.map (verdictOn verdicts)).map Verdict.score) =
      (assemble verdicts time).totalScore := by
    rw [totalScore_assemble, neg_zero_add_of_mem_scores (score_verdictOn_mem verdicts .pi)]
    rfl
  rw [← hsum, ← hmax, ← String.append_assoc]
  rfl

end Report
end Autograder
