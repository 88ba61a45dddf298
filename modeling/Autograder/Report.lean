/-
# Grade reports

A report has one entry for each test, in a fixed order, and a line with the total. `summary` is
what the terminal shows. Every line of an entry's output is indented there, so that no output can
pass for a heading.
-/

import Autograder.Number.Written
import Autograder.Report.Timestamp
import Autograder.Text.Lines
import Autograder.Verdict

namespace Autograder

/-- What a report says about one test. -/
structure ReportEntry where
  score : Float
  maxScore : Float
  name : String
  output : String
  visibility : String

/-- A grade report. -/
structure Report where
  output : String
  entries : List ReportEntry

namespace ReportEntry

/-- The entry of a verdict. -/
def ofVerdict (v : Verdict) : ReportEntry :=
  ⟨v.score, v.category.maxScore, v.category.name, v.output, "visible"⟩

/-- The heading of an entry: the name, the score and the score of a pass. -/
def heading (e : ReportEntry) : String :=
  "== " ++ e.name ++ " : " ++ fixed 1 e.score ++ "/" ++ fixed 1 e.maxScore

/-- The lines of an entry in the summary. -/
def summary (e : ReportEntry) : List Char :=
  e.heading.toList ++ '\n' ::
    (Text.lines e.output.toList).flatMap fun line => ' ' :: ' ' :: (line ++ ['\n'])

end ReportEntry

namespace Report

/-- The verdict on a test: the first one given, or that the test was not run. -/
def verdictOn (verdicts : List Verdict) (category : Category) : Verdict :=
  (verdicts.find? fun v => v.category == category).getD (.notRun category)

/-- The sum of some scores. -/
def sum (scores : List Float) : Float := scores.foldl (· + ·) 0.0

/-- The report of the verdicts at a point in time. -/
def assemble (verdicts : List Verdict) (time : Instant) : Report :=
  let vs := Category.all.map (verdictOn verdicts)
  { output := "Graded at " ++ time.text ++ ". Total " ++ fixed 1 (sum (vs.map Verdict.score)) ++
      "/" ++ fixed 1 (sum (Category.all.map Category.maxScore))
    entries := vs.map ReportEntry.ofVerdict }

/-- The sum of the scores in a report. The sum of no scores is the negative zero, which leaves the
sign of every score as it is. -/
def totalScore (r : Report) : Float := (r.entries.map ReportEntry.score).foldl (· + ·) (-0.0)

/-- The report as the terminal shows it. -/
def summary (r : Report) : String :=
  String.ofList (r.entries.flatMap ReportEntry.summary ++ (r.output.toList ++ ['\n']))

end Report
end Autograder
