/-
# A subject with prepared answers

The answers to builds and to runs are taken from two lists, in order, and no file is touched. When
the answers to builds are used up, building succeeds; when the answers to runs are used up, running
fails.
-/

import Autograder.Subject

namespace Autograder

/-- The answers that are left. -/
structure Script where
  builds : List RunResult
  runs : List RunResult

namespace Script

/-- The answer to a build that no answer was prepared for. -/
def builtAnyway : RunResult := .ok ⟨some 0, "", "", 0⟩

/-- The answer to a run that no answer was prepared for. -/
def nothingLeft : RunResult := .ok ⟨some 127, "", "no scripted run left", 0⟩

/-- The subject that gives prepared answers. -/
def subject : Subject Script where
  build _ files script :=
    match script.builds with
    | [] => (builtAnyway, files, script)
    | result :: rest => (result, files, { script with builds := rest })
  run _ _ _ files script :=
    match script.runs with
    | [] => (nothingLeft, files, script)
    | result :: rest => (result, files, { script with runs := rest })

end Script
end Autograder
