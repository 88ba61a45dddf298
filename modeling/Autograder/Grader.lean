/-
# Grading

What the grader does for a command line. The configuration is loaded first, and nothing else happens
if that fails. Then the log is opened, the source of the workload is settled, the tests are run, the
parallel pi test first, the summary is printed, and the report is written if that was asked for. The
scores have no influence on the exit code. The log goes on to the end, also after the report is
written.
-/

import Autograder.CommandLine
import Autograder.Config.File
import Autograder.Log.Logger
import Autograder.Report.Json
import Autograder.Suite.Settings

namespace Autograder

/-- What the grader takes from the host that it runs on. -/
structure Host where
  cores : Nat
  /-- The seed of the workload, if none is given. -/
  seed : UInt64
  time : Instant

/-- How a run of the grader ends: its exit code, what it printed, and where it leaves the
subject. -/
structure Ended (σ : Type) where
  exitCode : Nat
  printed : String
  bench : Bench σ
  /-- What went wrong, for the error output. -/
  problem? : Option String

namespace Grader

/-- The exit code of a run that went well. -/
def succeeded : Nat := 0

/-- The exit code of a run that failed. -/
def broken : Nat := 1

/-- The exit code of a run that could not keep a log. -/
def withoutLog : Nat := 101

/-- The configuration that the command line asks for. -/
def configOf (o : Options) (fs : Files) : Except ConfigError Config :=
  (Config.load fs o.environment).map fun c => { c with debug := c.debug || o.verbose }

/-- A random workload is wanted. -/
def generates (o : Options) : Bool := o.file.isNone && !o.noGenerate

/-- Where the workload comes from; if the exchange is left out, no one asks. -/
def sourceOf (o : Options) (host : Host) (c : Config) (fs : Files) :
    Option (Except CorpusError WorkloadSource) :=
  if o.noExchange then none
  else some (WorkloadSource.resolve fs c o.file (generates o) (o.seed.getD host.seed))

section Logged

variable {σ τ ρ : Type} (logger : Logger τ) (subject : Subject σ) (dice : SeededDice ρ)
  (o : Options) (host : Host) (c : Config)

/-- What comes before the tests: it is logged how they are going to be made. -/
def prepare (b : Bench (Logged σ τ)) : Bench (Logged σ τ) :=
  let path := Config.pathOf o.environment
  let b := b.note logger (.event (.starting o.environment c.subjectDirectory))
  let b := if b.files.exists? path then b else b.note logger (.event (.noConfig path))
  if !o.noExchange && generates o then
    b.note logger (.event (.generating (o.seed.getD host.seed)))
  else b

/-- The parallel pi test, unless it is left out. -/
def pi (b : Bench (Logged σ τ)) : Verdict × Bench (Logged σ τ) :=
  if o.noPi then (.notRun .pi, b)
  else
    Suite.runPi (logger.attach subject) (.ofConfig c host.cores) (b.note logger (.event .pi))

/-- The message exchange test, unless it is left out. -/
def exchange (source : Option (Except CorpusError WorkloadSource)) (b : Bench (Logged σ τ)) :
    Verdict × Bench (Logged σ τ) :=
  match source with
  | none => (.notRun .exchange, b)
  | some source =>
    let b := b.note logger (.event .exchange)
    let (verdict, b) := Suite.gradeExchange (logger.attach subject) dice c source b
    match source with
    | .error e => (verdict, b.note logger (.event (.noCorpus e)))
    | .ok _ => (verdict, b)

/-- Both tests. -/
def grade (b : Bench (Logged σ τ)) : Report × Bench (Logged σ τ) :=
  let source := sourceOf o host c b.files
  let (first, b) := pi logger subject o host c b
  let (second, b) := exchange logger subject dice c source b
  (.assemble [first, second] host.time, b)

/-- How a run ends: what is left to write of the log is written. -/
def ending (exitCode : Nat) (problem? : Option String) (b : Bench (Logged σ τ)) : Ended σ :=
  let b := b.note logger .pause
  ⟨exitCode, b.state.printed, b.detach, problem?⟩

/-- How a run ends that went well. -/
def complete (r : Report) (b : Bench (Logged σ τ)) : Ended σ :=
  ending logger succeeded none (b.note logger (.event (.complete r.totalScore)))

/-- Prints the summary of a report, and writes the report if that was asked for. -/
def finish (r : Report) (b : Bench (Logged σ τ)) : Ended σ :=
  let b := (b.note logger .pause).print r.summary
  if !o.grade then complete logger r b
  else
    match b.deliver o.report r.toJson with
    | .ok b => complete logger r (b.note logger (.event (.reportWritten o.report)))
    | .error e =>
      ending logger broken (some ("Failed to write " ++ o.report ++ ": " ++ e.message)) b

end Logged

variable {σ τ ρ : Type}

/-- A run of the grader, where the logger and the subject depend on the configuration. -/
def run (keeper : Log.Setup → Place → Logger τ) (subject : Config → Subject σ)
    (dice : SeededDice ρ) (o : Options) (host : Host) (b : Bench σ) : Ended σ :=
  match configOf o b.files with
  | .error e =>
    let problem := "Failed to load configuration for env '" ++ o.environment ++ "': " ++ e.message
    ⟨broken, "", b, some problem⟩
  | .ok c =>
    match Log.start c host.time b.files with
    | (.error e, files) =>
      ⟨withoutLog, "", { b with files := files }, some ("Failed to open the log: " ++ e.message)⟩
    | (.ok place, files) =>
      let logger := keeper (Log.setup c) place
      let b := prepare logger o host c (Bench.attach { b with files := files } logger)
      let (report, b) := grade logger (subject c) dice o host c b
      finish logger o report b

/-- What the grader does for some arguments, with a given way of keeping the log. -/
def startWith (keeper : Log.Setup → Place → Logger τ) (subject : Config → Subject σ)
    (dice : SeededDice ρ) (args : List String) (host : Host) (b : Bench σ) : Ended σ :=
  match CommandLine.read args with
  | .error refusal => ⟨refusal.exitCode, refusal.printed, b, refusal.problem?⟩
  | .ok o => run keeper subject dice o host b

/-- What the grader does for some arguments. -/
def start (subject : Config → Subject σ) (dice : SeededDice ρ) (args : List String) (host : Host)
    (b : Bench σ) : Ended σ :=
  startWith Log.atOnce subject dice args host b

end Grader
end Autograder
