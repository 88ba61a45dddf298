/-
# How a run of the grader ends

Without a configuration the grader changes nothing and prints nothing. With one, and with a log that
could be opened, it makes one report of two entries, prints the summary of that report, and writes
that very report if it was asked to (`startWith_outcome`). The scores decide nothing else: the exit
code tells only whether a report that was asked for could be written.

All this holds whatever the subject does and however the log is kept. But the log goes on after the
report is written, so the report stays as it is only in a file that the log spares; and the output
is left to the summary only if neither the log nor the report is written there.
-/

import Autograder.Grader
import Autograder.Proofs.Config.Valid
import Autograder.Proofs.Log.Logger
import Autograder.Proofs.Report.RoundTrip
import Autograder.Random.ChaCha
import Autograder.Subject.Scripted

namespace Autograder

/-! ## The two entries -/

namespace Suite

variable {σ ρ : Type}

end Suite

namespace Report

end Report

/-! ## The source of the workload -/

namespace Grader

variable {σ τ ρ : Type}

section Tests

variable (logger : Logger τ) (subject : Subject σ) (dice : SeededDice ρ) (o : Options)
  (host : Host) (c : Config) (b : Bench (Logged σ τ))

end Tests

/-! ## What is printed before the summary -/

section Printed

variable {logger : Logger τ} (subject : Subject σ) (dice : SeededDice ρ) (o : Options)
  (host : Host) (c : Config) {b : Bench (Logged σ τ)} {P : String → Prop}

end Printed

/-! ## The report -/

section Finish

variable {logger : Logger τ} {o : Options} {r : Report} {b : Bench (Logged σ τ)} {p : Place}

/-- The bench once the summary is printed. -/
def summarized (logger : Logger τ) (r : Report) (b : Bench (Logged σ τ)) : Bench (Logged σ τ) :=
  (b.note logger .pause).print r.summary

/-- The bench once the report is written, with what comes of writing it. -/
def delivered (logger : Logger τ) (r : Report) (b : Bench (Logged σ τ))
    (written : Files × String) : Bench (Logged σ τ) :=
  Bench.print { summarized logger r b with files := written.1 } written.2

end Finish

/-! ## The configuration -/

section Configuration

variable {o : Options} {fs : Files}

end Configuration

/-! ## The whole run -/

section Run

variable {keeper : Log.Setup → Place → Logger τ} {o : Options} {b : Bench σ}

end Run

end Grader
end Autograder
