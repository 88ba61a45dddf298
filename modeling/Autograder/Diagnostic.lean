/-
# Diagnostics

The lines that explain a verdict to a student. A line weighs as much as its severity.
-/

namespace Autograder

/-- How much a diagnostic weighs in a verdict. -/
inductive Severity where
  | info
  | warning
  | failure
  deriving DecidableEq, Repr

/-- A line that explains part of a verdict. -/
structure Diagnostic where
  severity : Severity
  message : String
  deriving DecidableEq, Repr

namespace Diagnostic

/-- A line that only informs. -/
def info (message : String) : Diagnostic := ⟨.info, message⟩

/-- A line about something that deserves attention. -/
def warning (message : String) : Diagnostic := ⟨.warning, message⟩

/-- A line about something that cost the grade. -/
def failure (message : String) : Diagnostic := ⟨.failure, message⟩

/-- The line as it is printed: only what is not mere information has a mark. -/
def text (d : Diagnostic) : String :=
  match d.severity with
  | .info => d.message
  | .warning => "[warn] " ++ d.message
  | .failure => "[fail] " ++ d.message

end Diagnostic
end Autograder
