/-
# The settings of the tests

What the tests take from the configuration. A workload file that is named on the command line is
used as it is. Otherwise the configured file is used, or written with a random workload, whose
corpus may turn out to be unreadable: then the exchange fails before the subject is touched.
-/

import Autograder.Config
import Autograder.Suite.Exchange
import Autograder.Suite.Pi

namespace Autograder

/-- A number of seconds in nanoseconds. -/
def nanosecondsOf (seconds : Nat) : Nat := seconds * 1000000000

namespace PiSettings

/-- The settings of the parallel pi test, on a machine with `cores` cores. -/
def ofConfig (c : Config) (cores : Nat) : PiSettings :=
  { threadCounts := c.pi.threadCounts
    points := c.pi.points
    range := c.pi.range
    cores := c.pi.cores.getD cores
    runLimit := nanosecondsOf c.runLimit
    debug := c.debug }

end PiSettings

namespace WorkloadSource

/-- Where the workload comes from: `file` if it is given, and the configured file otherwise. -/
def resolve (fs : Files) (c : Config) (file : Option String) (generate : Bool) (seed : UInt64) :
    Except CorpusError WorkloadSource :=
  match file with
  | some file => .ok (.existing file)
  | none =>
    let path := Path.join c.subjectDirectory c.exchange.workloadFile
    if !generate then .ok (.existing path)
    else
      match c.exchange.corpusFile with
      | none => .ok (.generated path seed .builtin)
      | some corpusFile =>
        match Corpus.ofFile fs (Path.join c.subjectDirectory corpusFile) with
        | .error e => .error e
        | .ok corpus => .ok (.generated path seed corpus)

end WorkloadSource

namespace ExchangeSettings

/-- The settings of the message exchange test. -/
def ofConfig (c : Config) (source : WorkloadSource) : ExchangeSettings :=
  { clients := c.exchange.clients
    exchanges := c.exchange.exchanges
    messages := c.exchange.messages
    source := source
    runLimit := nanosecondsOf c.runLimit
    debug := c.debug
    artifacts := some c.artifactsDirectory
    busyMarker := c.exchange.busyMarker }

end ExchangeSettings

namespace Suite

/-- The message exchange test with the configured settings, unless there is no corpus for it. -/
def gradeExchange {σ ρ : Type} (subject : Subject σ) (dice : SeededDice ρ) (c : Config)
    (source : Except CorpusError WorkloadSource) (b : Bench σ) : Verdict × Bench σ :=
  match source with
  | .error e => (.failed .exchange [.failure ("Could not load payload corpus: " ++ e.message)], b)
  | .ok source => runExchange subject dice (.ofConfig c source) b

end Suite
end Autograder
