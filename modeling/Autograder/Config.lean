/-
# The configuration

All settings of the grader have defaults. A configuration is *valid* if its thread counts are
positive and strictly increasing and there is at least one, if its range is not upside down, if
there is a client, and if the time limits are positive.
-/

import Autograder.Sweep

namespace Autograder

/-- The settings of the parallel pi test. -/
structure PiConfig where
  threadCounts : List Nat
  points : Nat
  low : Float
  high : Float
  /-- The number of cores to assume, instead of that of the machine. -/
  cores : Option Nat

/-- The settings of the message exchange test. Paths are taken from the subject's directory. -/
structure ExchangeConfig where
  clients : Nat
  exchanges : Nat
  messages : Nat
  workloadFile : String
  corpusFile : Option String
  busyMarker : Option String

/-- The settings of the grader. Time limits are in seconds. -/
structure Config where
  logLevel : String
  logDirectory : String
  logFile : String
  useJson : Bool
  rotation : String
  debug : Bool
  subjectDirectory : String
  artifactsDirectory : String
  buildProgram : String
  buildLimit : Nat
  runLimit : Nat
  pi : PiConfig
  exchange : ExchangeConfig

namespace PiConfig

/-- The settings that hold unless others are given. -/
def default : PiConfig :=
  { threadCounts := [1, 2, 4, 8]
    points := 1000000000
    low := 3.14
    high := 3.15
    cores := none }

/-- The estimates that are accepted. -/
def range (c : PiConfig) : EstimateRange := ⟨c.low, c.high⟩

end PiConfig

namespace ExchangeConfig

/-- The settings that hold unless others are given. -/
def default : ExchangeConfig :=
  { clients := 4
    exchanges := 4
    messages := 1000
    workloadFile := "file.txt"
    corpusFile := none
    busyMarker := some "ERROR: Tried to check if" }

end ExchangeConfig

/-- What can be wrong with a configuration. -/
inductive Invalid where
  | noThreadCounts
  | zeroThreads
  | notIncreasing (threadCounts : List Nat)
  | upsideDown (low high : Float)
  | noClients
  | noTime
  deriving DecidableEq

namespace Invalid

/-- What is wrong, in words. -/
def message : Invalid → String
  | .noThreadCounts => "pi.thread_counts is empty"
  | .zeroThreads => "pi.thread_counts contains 0"
  | .notIncreasing counts =>
    "pi.thread_counts must be strictly increasing, got [" ++
      ", ".intercalate (counts.map toString) ++ "]"
  | .upsideDown low high =>
    "pi.acceptable_low " ++ plain low ++ " exceeds pi.acceptable_high " ++ plain high
  | .noClients => "exchange.clients must be at least 1"
  | .noTime => "timeouts must be positive"

end Invalid

namespace Config

/-- The settings that hold unless others are given. -/
def default : Config :=
  { logLevel := "info"
    logDirectory := "logs"
    logFile := "grader.log"
    useJson := false
    rotation := "never"
    debug := false
    subjectDirectory := "."
    artifactsDirectory := "."
    buildProgram := "make"
    buildLimit := 30
    runLimit := 120
    pi := .default
    exchange := .default }

/-- Each number is less than the next. -/
def isIncreasing : List Nat → Bool
  | x :: y :: rest => decide (x < y) && isIncreasing (y :: rest)
  | _ => true

/-- The first thing that is wrong with a configuration. -/
def fault? (c : Config) : Option Invalid :=
  if c.pi.threadCounts.isEmpty then some .noThreadCounts
  else if c.pi.threadCounts.contains 0 then some .zeroThreads
  else if !isIncreasing c.pi.threadCounts then some (.notIncreasing c.pi.threadCounts)
  else if c.pi.high < c.pi.low then some (.upsideDown c.pi.low c.pi.high)
  else if c.exchange.clients = 0 then some .noClients
  else if c.buildLimit = 0 ∨ c.runLimit = 0 then some .noTime
  else none

end Config
end Autograder
