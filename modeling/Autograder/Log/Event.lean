/-
# What the grader logs

| level | message | fields |
| --- | --- | --- |
| info | Starting grader | the environment, the directory of the subject |
| info | No config file, using defaults | the path |
| info | Workload will be generated | the seed |
| info | === Parallel pi === | |
| info | === Message exchange === | |
| error | Could not prepare the exchange workload | why |
| info | Grade report written | the path |
| info | Grading complete | the sum of the scores |

The version of the grader, a field of the first event, is fixed when the grader is built and left
out here. The tests log more events, each of them around a request to the subject.
-/

import Autograder.Corpus.File
import Autograder.Number.Written

namespace Autograder
namespace Log

/-- The levels of events. -/
inductive Level where
  | error
  | info
  deriving DecidableEq, Repr

namespace Level

/-- The name of a level. -/
def name : Level → String
  | .error => "ERROR"
  | .info => "INFO"

/-- The place of a level among all levels, from the gravest on. -/
def rank : Level → Nat
  | .error => 1
  | .info => 3

/-- The rank up to which a filter lets events pass. A word that names no level is the name of some
other program. -/
def rankOf (filter : String) : Nat :=
  match filter.toLower with
  | "" | "error" | "1" => 1
  | "warn" | "2" => 2
  | "info" | "3" => 3
  | "debug" | "4" => 4
  | "trace" | "5" => 5
  | _ => 0

end Level

/-- What the grader itself logs. -/
inductive Event where
  | starting (environment subjectDirectory : String)
  | noConfig (path : String)
  | generating (seed : UInt64)
  | pi
  | exchange
  | noCorpus (error : CorpusError)
  | reportWritten (path : String)
  | complete (total : Float)

namespace Event

/-- The level of an event. -/
def level : Event → Level
  | .noCorpus _ => .error
  | _ => .info

/-- The message of an event. -/
def message : Event → String
  | .starting _ _ => "Starting grader"
  | .noConfig _ => "No config file, using defaults"
  | .generating _ => "Workload will be generated"
  | .pi => "=== Parallel pi ==="
  | .exchange => "=== Message exchange ==="
  | .noCorpus _ => "Could not prepare the exchange workload"
  | .reportWritten _ => "Grade report written"
  | .complete _ => "Grading complete"

/-- The fields of an event, by their names. -/
def fields : Event → List (String × String)
  | .starting environment subjectDirectory =>
    [("env", environment), ("subject_dir", subjectDirectory)]
  | .noConfig path | .reportWritten path => [("path", path)]
  | .generating seed => [("seed", toString seed.toNat)]
  | .pi | .exchange => []
  | .noCorpus error => [("error", error.message)]
  | .complete total => [("total", (inReport? total).getD (plain total))]

/-- An event as a line: its level, its message and its fields. -/
def line (e : Event) : String :=
  e.level.name ++ " " ++ e.message ++ String.join (e.fields.map fun f => " " ++ f.1 ++ "=" ++ f.2) ++
    "\n"

end Event
end Log
end Autograder
