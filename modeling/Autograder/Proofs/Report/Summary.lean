/-
# The lines of a summary

The summary of a report is made of lines: the heading of each entry, under it the lines of its
output, indented, and at the end the line of the report (`toList_summary`). Headings and the line of
the report have no line feed in them, so the summary falls into these lines and no others
(`splitOn_summary`). A line that does not start with two spaces is then a heading or the line of the
report (`filter_splitOn_summary`), and so no output can pass for a heading or for the total, nor
hide one (`assemble_shows`).
-/

import Autograder.Proofs.Report.Assembly
import Autograder.Proofs.Text.Decimal
import Autograder.Proofs.Text.Lines

namespace Autograder

/-! ## Texts on one line -/

theorem newline_not_mem_digits (k n : Nat) : '\n' ∉ List.replicate k '0' ++ Nat.toDigits 10 n := by
  rw [List.mem_append]
  rintro (hmem | hmem)
  · exact absurd (List.eq_of_mem_replicate hmem) (by decide)
  · exact Text.newline_not_mem_toDigits n hmem

theorem newline_not_mem_sign (negative : Bool) : '\n' ∉ (Decimal.sign negative).toList := by
  cases negative <;> decide

theorem newline_not_mem_fixed (places : Nat) (x : Float) : '\n' ∉ (fixed places x).toList := by
  unfold fixed
  split
  case h_1 => decide
  case h_2 negative _ =>
    rw [String.toList_append, List.mem_append]
    rintro (hmem | hmem)
    · exact newline_not_mem_sign negative hmem
    · exact absurd hmem (by decide)
  case h_3 negative m q _ =>
    rw [String.toList_append, String.toList_ofList, List.mem_append, List.mem_append]
    rintro (hmem | hmem | hmem)
    · exact newline_not_mem_sign negative hmem
    · exact newline_not_mem_digits _ _ (List.mem_of_mem_take hmem)
    · split at hmem
      · exact absurd hmem List.not_mem_nil
      · rcases List.mem_cons.1 hmem with hmem | hmem
        · exact absurd hmem (by decide)
        · exact newline_not_mem_digits _ _ (List.mem_of_mem_drop hmem)

theorem newline_not_mem_padded (width n : Nat) : '\n' ∉ (Instant.padded width n).toList := by
  rw [Instant.padded, String.toList_ofList]
  exact newline_not_mem_digits _ n

theorem newline_not_mem_yearText (year : Int) : '\n' ∉ (Instant.yearText year).toList := by
  unfold Instant.yearText
  split_ifs <;> simp [newline_not_mem_padded]

theorem newline_not_mem_fractionText (n : Nat) : '\n' ∉ (Instant.fractionText n).toList := by
  unfold Instant.fractionText
  split_ifs <;> simp [newline_not_mem_padded]

/-- A point in time is written on one line. -/
theorem newline_not_mem_time (time : Instant) : '\n' ∉ time.text.toList := by
  simp [Instant.text, newline_not_mem_padded, newline_not_mem_yearText,
    newline_not_mem_fractionText]

theorem newline_not_mem_name (c : Category) : '\n' ∉ c.name.toList := by
  cases c <;> decide

/-! ## Lines -/

/-- A line of output as the summary has it. -/
def indented (l : List Char) : List Char := ' ' :: ' ' :: l

/-- The lines of an entry: its heading, and the lines of its output. -/
def ReportEntry.lines (e : ReportEntry) : List (List Char) :=
  e.heading.toList :: (Text.lines e.output.toList).map indented

theorem ReportEntry.summary_eq (e : ReportEntry) : e.summary = Text.terminated e.lines := by
  rw [lines, Text.terminated_cons, Text.terminated, List.flatMap_map]
  rfl

namespace Report

variable {r : Report}

/-- **A summary is made of lines**, each with a line feed. -/
theorem toList_summary (r : Report) :
    r.summary.toList =
      Text.terminated (r.entries.flatMap ReportEntry.lines ++ [r.output.toList]) := by
  have hentries : r.entries.flatMap ReportEntry.summary =
      Text.terminated (r.entries.flatMap ReportEntry.lines) := by
    rw [Text.terminated, List.flatMap_assoc]
    exact congrArg (List.flatMap · r.entries) (funext ReportEntry.summary_eq)
  rw [summary, String.toList_ofList, hentries, Text.terminated, Text.terminated,
    List.flatMap_append, List.flatMap_singleton]

/-- The headings and the line of a report are on one line each. -/
structure HasLines (r : Report) : Prop where
  heading : ∀ e ∈ r.entries, '\n' ∉ e.heading.toList
  output : '\n' ∉ r.output.toList

/-- **A summary falls into its lines.** -/
theorem splitOn_summary (h : r.HasLines) :
    r.summary.toList.splitOn '\n' =
      r.entries.flatMap ReportEntry.lines ++ [r.output.toList, []] := by
  have hlines : ∀ l ∈ r.entries.flatMap ReportEntry.lines ++ [r.output.toList], '\n' ∉ l := by
    intro l hl
    rcases List.mem_append.1 hl with hl | hl
    · obtain ⟨e, he, hl⟩ := List.mem_flatMap.1 hl
      rcases List.mem_cons.1 hl with rfl | hl
      · exact h.heading e he
      · obtain ⟨k, hk, rfl⟩ := List.mem_map.1 hl
        simpa [indented] using Text.not_mem_of_mem_lines hk
    · rw [List.mem_singleton.1 hl]
      exact h.output
  rw [toList_summary, Text.splitOn_terminated hlines, List.append_assoc]
  rfl

/-- **A sign that no indented line has** is found at headings and at the line of the report only,
whatever the outputs are. -/
theorem filter_splitOn_summary (h : r.HasLines) {p : List Char → Bool}
    (hp : ∀ l, p (indented l) = false) :
    (r.summary.toList.splitOn '\n').filter p =
      (r.entries.map (fun e => e.heading.toList) ++ [r.output.toList, []]).filter p := by
  -- of an entry only the heading is left
  have hentry (e : ReportEntry) : e.lines.filter p = [e.heading.toList].filter p := by
    have hnone : ((Text.lines e.output.toList).map indented).filter p = [] := by
      rw [List.filter_eq_nil_iff]
      intro l hl
      obtain ⟨k, -, rfl⟩ := List.mem_map.1 hl
      rw [hp k]
      exact Bool.false_ne_true
    rw [ReportEntry.lines, ← List.singleton_append, List.filter_append, hnone, List.append_nil]
  rw [splitOn_summary h, List.filter_append, List.filter_append, List.filter_flatMap,
    List.map_eq_flatMap, List.filter_flatMap, funext hentry]

/-- The line that is left to see at the end of a summary is that of the report. -/
theorem getLast?_splitOn_summary (h : r.HasLines) (hne : r.output ≠ "") :
    ((r.summary.toList.splitOn '\n').filter fun l => !l.isEmpty).getLast? =
      some r.output.toList := by
  have houtput : [r.output.toList, []].filter (fun l => !l.isEmpty) = [r.output.toList] := by
    simp [hne]
  rw [splitOn_summary h, List.filter_append, houtput]
  exact List.getLast?_concat

/-! ## What a report says -/

/-- A line that starts with some text. -/
def startsWith (text : String) (l : List Char) : Bool := text.toList.isPrefixOf l

/-- What a report of some verdicts says. There is an entry for each test, of the verdict that
counts; its score is in range, and is the number in its heading. The total is the sum of the scores,
and is the number in the line of the report. -/
structure Tells (verdicts : List Verdict) (time : Instant) (r : Report) : Prop where
  entries : List.Forall₂ (fun c e => ∃ v, IsVerdictOn verdicts c v ∧ e = .ofVerdict v)
    Category.all r.entries
  bounds : ∀ e ∈ r.entries, (0.0 : Float) ≤ e.score ∧ e.score ≤ e.maxScore
  heading : ∀ e ∈ r.entries, ∃ score most,
    e.heading = "== " ++ e.name ++ " : " ++ score ++ "/" ++ most ∧
      Shows score e.score ∧ Shows most e.maxScore
  total : ∃ sum, r.output = "Graded at " ++ time.text ++ ". Total " ++ sum ++ "/9.0" ∧
    Shows sum r.totalScore

/-- A text that shows a report, cut at its line feeds: under each heading the lines of the output of
the entry, each after two spaces, and then the line of the report. The headings and the line of the
report are told from all other lines by how they start. Nothing follows the line of the report. -/
structure IsShownBy (r : Report) (text : String) : Prop where
  lines : text.toList.splitOn '\n' =
    r.entries.flatMap (fun e => e.heading.toList ::
      (Text.lines e.output.toList).map fun l => ' ' :: ' ' :: l) ++ [r.output.toList, []]
  headings : (text.toList.splitOn '\n').filter (startsWith "== ") =
    r.entries.map fun e => e.heading.toList
  total : (text.toList.splitOn '\n').filter (startsWith "Graded at ") = [r.output.toList]
  last : ((text.toList.splitOn '\n').filter fun l => !l.isEmpty).getLast? = some r.output.toList

variable (verdicts : List Verdict) (time : Instant)

/-- An entry has the name of a test, and its score is one of the test. -/
theorem exists_of_mem_assemble {e : ReportEntry} (he : e ∈ (assemble verdicts time).entries) :
    ∃ c : Category, e.name = c.name ∧ e.maxScore = c.maxScore ∧ e.score ∈ c.scores := by
  obtain ⟨v, hv, rfl⟩ := List.mem_map.1 he
  obtain ⟨c, -, rfl⟩ := List.mem_map.1 hv
  have hc := (isVerdictOn_verdictOn verdicts c).category
  exact ⟨c, congrArg Category.name hc, congrArg Category.maxScore hc,
    score_verdictOn_mem verdicts c⟩

theorem tells_assemble : (assemble verdicts time).Tells verdicts time where
  entries := by
    have hcounts (c : Category) : ∃ v, IsVerdictOn verdicts c v ∧
        ReportEntry.ofVerdict (verdictOn verdicts c) = .ofVerdict v :=
      ⟨_, isVerdictOn_verdictOn verdicts c, rfl⟩
    exact .cons (hcounts .pi) (.cons (hcounts .exchange) .nil)
  bounds e he := by
    obtain ⟨c, -, hmax, hscore⟩ := exists_of_mem_assemble verdicts time he
    rw [hmax]
    exact c.bounds_of_mem_scores e.score hscore
  heading e he := by
    obtain ⟨hscore, hmax⟩ := isScored_of_mem_assemble he
    exact ⟨_, _, rfl, shows_score hscore, shows_score hmax⟩
  total := by
    refine ⟨_, output_assemble verdicts time, ?_⟩
    rw [totalScore_assemble]
    exact shows_total (score_verdictOn_mem verdicts .pi) (score_verdictOn_mem verdicts .exchange)

theorem hasLines_assemble : (assemble verdicts time).HasLines where
  heading e he := by
    obtain ⟨c, hname, -, -⟩ := exists_of_mem_assemble verdicts time he
    simp [ReportEntry.heading, hname, newline_not_mem_name, newline_not_mem_fixed]
  output := by
    rw [output_assemble]
    simp [newline_not_mem_time, newline_not_mem_fixed]

theorem startsWith_heading (e : ReportEntry) :
    startsWith "== " e.heading.toList = true ∧
      startsWith "Graded at " e.heading.toList = false := by
  simp [startsWith, List.isPrefixOf, ReportEntry.heading]

theorem filter_headings (es : List ReportEntry) :
    (es.map fun e => e.heading.toList).filter (startsWith "== ") =
        es.map (fun e => e.heading.toList) ∧
      (es.map fun e => e.heading.toList).filter (startsWith "Graded at ") = [] := by
  simp [startsWith_heading]

theorem startsWith_output :
    startsWith "== " (assemble verdicts time).output.toList = false ∧
      startsWith "Graded at " (assemble verdicts time).output.toList = true := by
  rw [output_assemble]
  simp [startsWith, List.isPrefixOf]

theorem isShownBy_summary :
    (assemble verdicts time).IsShownBy (assemble verdicts time).summary where
  lines := splitOn_summary (hasLines_assemble verdicts time)
  headings := by
    rw [filter_splitOn_summary (hasLines_assemble verdicts time) fun l => rfl, List.filter_append,
      (filter_headings _).1, List.filter_cons_of_neg (by simp [startsWith_output])]
    exact List.append_nil _
  total := by
    rw [filter_splitOn_summary (hasLines_assemble verdicts time) fun l => rfl, List.filter_append,
      (filter_headings _).2, List.filter_cons_of_pos (startsWith_output _ _).2]
    rfl
  last := by
    refine getLast?_splitOn_summary (hasLines_assemble verdicts time) fun hempty => ?_
    have hstart := (startsWith_output verdicts time).2
    rw [hempty] at hstart
    exact absurd hstart (by decide)

/-- **A summary cannot be forged**, whatever the verdicts are and the texts in their diagnostics.
The report says of each test what the first verdict on it says, and the summary shows this report:
no output makes a heading or a total, and none hides one. Verdicts that do not count change nothing,
and neither does the order of verdicts on different tests. -/
theorem assemble_shows :
    (assemble verdicts time).Tells verdicts time ∧
      (assemble verdicts time).IsShownBy (assemble verdicts time).summary ∧
      (∀ verdicts', (∀ c v, IsVerdictOn verdicts c v → IsVerdictOn verdicts' c v) →
        assemble verdicts time = assemble verdicts' time) ∧
      ∀ verdicts', verdicts.Perm verdicts' → (verdicts.map Verdict.category).Nodup →
        assemble verdicts time = assemble verdicts' time :=
  ⟨tells_assemble verdicts time, isShownBy_summary verdicts time,
    fun _ h => assemble_congr h time, fun _ hperm h => assemble_perm hperm h time⟩

/-- An output with a heading and a total of its own, before another verdict on the same test, and
before and after a verdict on the other one. -/
theorem assemble_shows_of_forgery :
    let forged : Verdict := ⟨.exchange, .partly,
      [.failure "no\n== Parallel pie : 3.0/3.0\nGraded at noon. Total 9.0/9.0\r\n\n"]⟩
    let passed : Verdict := ⟨.exchange, .pass, []⟩
    let other : Verdict := ⟨.pi, .partly, []⟩
    let lines := (assemble [forged] ⟨0, 0⟩).summary.toList.splitOn '\n'
    lines.filter (startsWith "== ") =
        ["== Parallel pie : 0.0/3.0".toList, "== Exchanging messages : 4.0/6.0".toList] ∧
      lines.filter (startsWith "Graded at ") =
        ["Graded at 1970-01-01T00:00:00+00:00. Total 4.0/9.0".toList] ∧
      assemble [forged] ⟨0, 0⟩ = assemble [forged, passed] ⟨0, 0⟩ ∧
      assemble [forged, other] ⟨0, 0⟩ = assemble [other, forged] ⟨0, 0⟩ := by
  intro forged passed other lines
  obtain ⟨-, hshown, hfirst, -⟩ := assemble_shows [forged] ⟨0, 0⟩
  refine ⟨hshown.headings.trans (by decide +kernel), hshown.total.trans (by decide +kernel),
    hfirst _ fun c v hv => ?_, (assemble_shows [forged, other] ⟨0, 0⟩).2.2.2 _ (.swap ..) ?_⟩
  · rw [isVerdictOn_iff] at hv ⊢
    cases c <;> exact hv
  · decide

end Report
end Autograder
