/-
# A report reads back as it was written

A score is one of five numbers, and each of these is written with digits that stand for it. All the
rest of a report is text, and a report is a tree of its texts and scores, so what is read from its
JSON text is the report itself.
-/

import Autograder.Proofs.Json.RoundTrip
import Autograder.Report.Json

namespace Autograder

/-- The scores that a verdict can have. -/
def Verdict.scores : List Float := [0.0, 1.5, 3.0, 4.0, 6.0]

theorem Category.maxScore_mem (c : Category) : c.maxScore ∈ Verdict.scores := by
  cases c <;> simp [Category.maxScore, Verdict.scores]

theorem Category.partialScore_mem (c : Category) : c.partialScore ∈ Verdict.scores := by
  cases c <;> simp [Category.partialScore, Verdict.scores]

theorem Verdict.score_mem (v : Verdict) : v.score ∈ Verdict.scores := by
  unfold Verdict.score
  split
  · exact v.category.maxScore_mem
  · exact v.category.partialScore_mem
  all_goals exact List.mem_cons_self

/-- A verdict can have each of these scores. -/
theorem Verdict.mem_scores_iff {x : Float} : x ∈ Verdict.scores ↔ ∃ v : Verdict, v.score = x := by
  constructor
  · simp only [Verdict.scores, List.mem_cons, List.not_mem_nil, or_false]
    rintro (rfl | rfl | rfl | rfl | rfl)
    · exact ⟨⟨.pi, .fail, []⟩, rfl⟩
    · exact ⟨⟨.pi, .partly, []⟩, rfl⟩
    · exact ⟨⟨.pi, .pass, []⟩, rfl⟩
    · exact ⟨⟨.exchange, .partly, []⟩, rfl⟩
    · exact ⟨⟨.exchange, .pass, []⟩, rfl⟩
  · rintro ⟨v, rfl⟩
    exact v.score_mem

namespace Json

/-- A score is written as a number that stands for it. -/
theorem exists_literal_of_mem_scores {x : Float} (hx : x ∈ Verdict.scores) :
    ∃ literal, Value.ofFloat x = .number literal ∧ IsNumber literal ∧
      readNumber? literal = some x := by
  have hwritten : ∀ text : String, inReport? x = some text →
      Value.ofFloat x = .number text.toList := by
    intro text htext
    rw [Value.ofFloat, htext]
  simp only [Verdict.scores, List.mem_cons, List.not_mem_nil, or_false] at hx
  rcases hx with rfl | rfl | rfl | rfl | rfl
  · exact ⟨_, hwritten "0.0" (by decide +kernel), by decide +kernel, rfl⟩
  · exact ⟨_, hwritten "1.5" (by decide +kernel), by decide +kernel, rfl⟩
  · exact ⟨_, hwritten "3.0" (by decide +kernel), by decide +kernel, rfl⟩
  · exact ⟨_, hwritten "4.0" (by decide +kernel), by decide +kernel, rfl⟩
  · exact ⟨_, hwritten "6.0" (by decide +kernel), by decide +kernel, rfl⟩

theorem isWhole_ofFloat {x : Float} (hx : x ∈ Verdict.scores) : (Value.ofFloat x).IsWhole := by
  obtain ⟨literal, hliteral, hnumber, -⟩ := exists_literal_of_mem_scores hx
  rw [hliteral]
  exact .number hnumber

theorem float?_ofFloat {x : Float} (hx : x ∈ Verdict.scores) :
    (Value.ofFloat x).float? = some x := by
  obtain ⟨literal, hliteral, -, hread⟩ := exists_literal_of_mem_scores hx
  rw [hliteral, Value.float?, hread]

end Json

open Json

/-- The scores of an entry are scores of verdicts. -/
def ReportEntry.IsScored (e : ReportEntry) : Prop :=
  e.score ∈ Verdict.scores ∧ e.maxScore ∈ Verdict.scores

theorem ReportEntry.isScored_ofVerdict (v : Verdict) : (ReportEntry.ofVerdict v).IsScored :=
  ⟨v.score_mem, v.category.maxScore_mem⟩

theorem ReportEntry.IsScored.isWhole {e : ReportEntry} (h : e.IsScored) : e.toValue.IsWhole := by
  refine .object fun m hm => ?_
  simp only [List.mem_cons, List.not_mem_nil, or_false] at hm
  rcases hm with rfl | rfl | rfl | rfl | rfl
  · exact isWhole_ofFloat h.1
  · exact isWhole_ofFloat h.2
  all_goals exact .string _

theorem ReportEntry.IsScored.ofValue?_toValue {e : ReportEntry} (h : e.IsScored) :
    ReportEntry.ofValue? e.toValue = some e := by
  have hfields : e.toValue.fields? ["score", "max_score", "name", "output", "visibility"] =
      some [.ofFloat e.score, .ofFloat e.maxScore, .string e.name, .string e.output,
        .string e.visibility] := rfl
  simp [ReportEntry.ofValue?, hfields, float?_ofFloat h.1, float?_ofFloat h.2, Value.text?]

namespace Report

variable {r : Report}

theorem isWhole_toValue (h : ∀ e ∈ r.entries, e.IsScored) : r.toValue.IsWhole := by
  refine .object fun m hm => ?_
  simp only [List.mem_cons, List.not_mem_nil, or_false] at hm
  rcases hm with rfl | rfl
  · exact .string _
  · refine .array fun v hv => ?_
    obtain ⟨e, he, rfl⟩ := List.mem_map.1 hv
    exact (h e he).isWhole

theorem ofValue?_toValue (h : ∀ e ∈ r.entries, e.IsScored) : ofValue? r.toValue = some r := by
  have hfields : r.toValue.fields? ["output", "tests"] =
      some [.string r.output, .array (r.entries.map ReportEntry.toValue)] := rfl
  have hentries : (r.entries.map ReportEntry.toValue).mapM ReportEntry.ofValue? = some r.entries :=
    mapM_map_eq_some fun e he => (h e he).ofValue?_toValue
  simp [ofValue?, hfields, Value.text?, Value.items?, hentries]

/-- A report reads back from its text if its scores are scores of verdicts. -/
theorem ofJson?_of_isScored (h : ∀ e ∈ r.entries, e.IsScored) : ofJson? r.toJson = some r := by
  rw [ofJson?, toJson, read?_pretty (isWhole_toValue h), Option.bind_some, ofValue?_toValue h]

theorem isScored_of_mem_assemble {verdicts : List Verdict} {time : Instant} {e : ReportEntry}
    (he : e ∈ (assemble verdicts time).entries) : e.IsScored := by
  obtain ⟨v, -, rfl⟩ := List.mem_map.1 he
  exact ReportEntry.isScored_ofVerdict v

/-- **A report reads back as it was written**, whatever the texts in it are and however many entries
it has, and so does the report that is assembled from any verdicts. -/
theorem ofJson?_toJson :
    (∀ r : Report, (∀ e ∈ r.entries, e.score ∈ Verdict.scores ∧ e.maxScore ∈ Verdict.scores) →
      ofJson? r.toJson = some r) ∧
    ∀ (verdicts : List Verdict) (time : Instant),
      ofJson? (assemble verdicts time).toJson = some (assemble verdicts time) := by
  refine ⟨fun r h => ofJson?_of_isScored h, fun verdicts time => ?_⟩
  exact ofJson?_of_isScored fun e he => isScored_of_mem_assemble he

/-- Quotes, backslashes, control characters, line ends and a character beyond 16 bits in the texts
of a report with one entry. -/
theorem ofJson?_toJson_of_escapes :
    let r : Report :=
      ⟨"a \"b\" \\ c", [⟨1.5, 3.0, "\x00\x08\x0c\x1f\x7f", "\r\n\t\\n", "\u20ac 𝄞"⟩]⟩
    ofJson? r.toJson = some r := by
  intro r
  refine ofJson?_toJson.1 r fun e he => ?_
  obtain rfl := List.mem_singleton.1 he
  constructor <;> simp [Verdict.scores]

end Report
end Autograder
