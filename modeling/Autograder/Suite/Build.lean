/-
# Building the program under test

Both tests build the subject before they run it: first everything is cleaned, then the target is
made with the settings of the test as compiler flags. A failed cleaning is only remarked on.
-/

import Autograder.Diagnostic
import Autograder.Subject
import Autograder.Text.Blank

namespace Autograder
namespace Suite

/-- The arguments that clean. -/
def cleanArgs : List String := ["clean"]

/-- The arguments that make a target with some compiler flags. -/
def makeArgs (flags target : String) : List String := ["CFLAGS=" ++ flags, target]

/-- A switch as the value of a macro. -/
def switch (on : Bool) : String := if on then "1" else "0"

/-- What there is to say about the cleaning. -/
def cleanWarnings : RunResult → List Diagnostic
  | .ok o => if o.success then [] else [.warning ("make clean: " ++ o.statusText)]
  | .error e => [.warning ("make clean: " ++ e.message)]

/-- What there is to say about a target that was not made. -/
def makeFailure? (target : String) : RunResult → Option Diagnostic
  | .ok o =>
    if o.success then none
    else
      some (.failure ("Error making " ++ target ++ " (" ++ o.statusText ++ "):\n" ++ o.stdout ++
        o.stderr))
  | .error e => some (.failure ("Error making " ++ target ++ ": " ++ e.message))

/-- What building came to: remarks on the cleaning, and why the target was not made. -/
structure Built where
  warnings : List Diagnostic
  failure? : Option Diagnostic

/-- Cleans, and makes the target. -/
def build {σ : Type} (subject : Subject σ) (flags target : String) (b : Bench σ) :
    Built × Bench σ :=
  let (cleaned, b) := b.build subject cleanArgs
  let (made, b) := b.build subject (makeArgs flags target)
  (⟨cleanWarnings cleaned, makeFailure? target made⟩, b)

/-- The output of a run that ended well, or why there is nothing to judge. -/
def judgeable : RunResult → Except String ProcessOutput
  | .ok o =>
    if o.success then .ok o
    else .error (o.statusText ++ " after " ++ fixed 3 o.seconds ++ "s: " ++
      Text.trimmed o.stderr)
  | .error e => .error e.message

end Suite
end Autograder
