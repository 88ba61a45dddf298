/-
# The program under test

All that the grader sees of a program under test are the answers to two requests: build it, and run
it. A `Subject` is any way of answering them. Each answer may depend on the files and on a state of
the subject's own, and may change both. A `Bench` is where a subject stands while it is graded: it
also keeps the list of the requests made so far.
-/

import Autograder.Files.Tree
import Autograder.Number.Written

namespace Autograder

/-- What a process left behind when it ended. -/
structure ProcessOutput where
  /-- The exit code; a process that a signal ended has none. -/
  exitCode : Option Int
  stdout : String
  stderr : String
  /-- The time it took, in nanoseconds. -/
  elapsed : Nat

/-- A length of time in seconds. -/
def secondsOf (nanoseconds : Nat) : Float :=
  (nanoseconds / 1000000000).toUInt64.toFloat +
    (nanoseconds % 1000000000).toUInt64.toFloat / 1000000000.0

namespace ProcessOutput

/-- The process ended with exit code 0. -/
def success (o : ProcessOutput) : Bool := o.exitCode == some 0

/-- The time the process took, in seconds. -/
def seconds (o : ProcessOutput) : Float := secondsOf o.elapsed

/-- How the process ended, in words. -/
def statusText (o : ProcessOutput) : String :=
  match o.exitCode with
  | some code => "exit code " ++ toString code
  | none => "terminated by signal"

end ProcessOutput

/-- Why there is no output of a process. -/
inductive RunError where
  | spawn (program reason : String)
  | timeout (program : String) (limit : Nat)
  | collect (program reason : String)
  deriving DecidableEq, Repr

namespace RunError

/-- The error in words. -/
def message : RunError → String
  | .spawn program reason => "failed to start " ++ program ++ ": " ++ reason
  | .timeout program limit =>
    program ++ " did not finish within " ++ plain (secondsOf limit) ++ "s"
  | .collect program reason => "failed to collect output of " ++ program ++ ": " ++ reason

end RunError

/-- The answer to a request. -/
abbrev RunResult := Except RunError ProcessOutput

/-- The process ended, and with exit code 0. -/
def RunResult.isSuccess : RunResult → Bool
  | .ok o => o.success
  | .error _ => false

/-- A way of answering requests, with a state of its own of type `σ`. A run has a time limit in
nanoseconds. -/
structure Subject (σ : Type) where
  build : (args : List String) → Files → σ → RunResult × Files × σ
  run : (program : String) → (args : List String) → (limit : Nat) → Files → σ →
    RunResult × Files × σ

/-- A request that was made. -/
inductive Call where
  | build (args : List String)
  | run (program : String) (args : List String) (limit : Nat)
  deriving DecidableEq, Repr

/-- The files, the state of the subject, and the requests made so far. -/
structure Bench (σ : Type) where
  files : Files
  state : σ
  calls : List Call

namespace Bench

variable {σ : Type}

/-- Has the subject built with the given arguments. -/
def build (b : Bench σ) (subject : Subject σ) (args : List String) : RunResult × Bench σ :=
  let (result, files, state) := subject.build args b.files b.state
  (result, ⟨files, state, b.calls ++ [.build args]⟩)

/-- Has a program of the subject run with the given arguments. -/
def run (b : Bench σ) (subject : Subject σ) (program : String) (args : List String)
    (limit : Nat) : RunResult × Bench σ :=
  let (result, files, state) := subject.run program args limit b.files b.state
  (result, ⟨files, state, b.calls ++ [.run program args limit]⟩)

end Bench
end Autograder
