/-
# Verdicts

There are two tests. Each ends in a grade, and the grade decides the score.

| test | pass | partial | fail, not run |
| --- | ---: | ---: | ---: |
| parallel pi | 3 | 1.5 | 0 |
| message exchange | 6 | 4 | 0 |
-/

import Autograder.Diagnostic

namespace Autograder

/-- The tests. -/
inductive Category where
  | pi
  | exchange
  deriving DecidableEq, Repr

namespace Category

/-- All tests, in the order in which they are reported. -/
def all : List Category := [.pi, .exchange]

/-- What the test is called in a report. -/
def name : Category → String
  | .pi => "Parallel pie"
  | .exchange => "Exchanging messages"

/-- The score of a pass. -/
def maxScore : Category → Float
  | .pi => 3.0
  | .exchange => 6.0

/-- The score of a correct program that is too slow, or that waits by looping. -/
def partialScore : Category → Float
  | .pi => 1.5
  | .exchange => 4.0

end Category

/-- The outcome of a test. -/
inductive Grade where
  | pass
  | partly
  | fail
  | notRun
  deriving DecidableEq, Repr

/-- The outcome of a test with its explanation. -/
structure Verdict where
  category : Category
  grade : Grade
  diagnostics : List Diagnostic
  deriving DecidableEq, Repr

namespace Verdict

/-- The grade of a program that was judged: nothing is worth anything if it is not correct. -/
def judge (category : Category) (correct timely : Bool) (diagnostics : List Diagnostic) : Verdict :=
  ⟨category, if !correct then .fail else if timely then .pass else .partly, diagnostics⟩

/-- The verdict on a program that could not be judged. -/
def failed (category : Category) (diagnostics : List Diagnostic) : Verdict :=
  ⟨category, .fail, diagnostics⟩

/-- The verdict on a test that was left out. -/
def notRun (category : Category) : Verdict := ⟨category, .notRun, [.info "Test not run"]⟩

/-- The score of a verdict. -/
def score (v : Verdict) : Float :=
  match v.grade with
  | .pass => v.category.maxScore
  | .partly => v.category.partialScore
  | .fail | .notRun => 0.0

/-- The explanation, one line feed between diagnostics. -/
def output (v : Verdict) : String := "\n".intercalate (v.diagnostics.map Diagnostic.text)

end Verdict
end Autograder
