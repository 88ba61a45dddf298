/-
# Reading a configuration

A configuration is a YAML mapping with two mappings in it, one for each test. Settings that it does
not name have their defaults, names that are no settings are passed over, and no setting may be
named twice. Where a mapping or a list is looked for, nothing at all will do as an empty one.
-/

import Autograder.Config
import Autograder.Number.Reader
import Autograder.Text.Decimal
import Autograder.Yaml.Node

namespace Autograder

open Yaml

namespace Config

/-- The members of a mapping by their names. -/
abbrev Section := List (String × Node)

/-- A scalar without anything written in it. -/
def isNothing : Node → Bool
  | .scalar _ .plain text => text.isEmpty
  | _ => false

/-- The text of a scalar, whatever its style. -/
def readText (d : Document) (n : Node) : Option String :=
  match d.resolve n with
  | some (.scalar _ _ text) => some text
  | _ => none

/-- The text of a scalar that may be something other than a text: a plain one, or a literal one with
the tag of what is looked for. -/
def readBare (d : Document) (tag : String) (n : Node) : Option String :=
  match d.resolve n with
  | some (.scalar _ .plain text) => some text
  | some (.scalar (some t) .literal text) =>
    if t = "tag:yaml.org,2002:" ++ tag then some text else none
  | _ => none

/-- A switch. -/
def readBool (d : Document) (n : Node) : Option Bool :=
  match readBare d "bool" n with
  | some text =>
    if ["true", "True", "TRUE"].contains text then some true
    else if ["false", "False", "FALSE"].contains text then some false
    else none
  | none => none

/-- The value of a digit in a base of at most 16. -/
def digit? (base : Nat) (c : Char) : Option Nat :=
  (hexValue? [c]).filter (· < base)

/-- The value of one or more digits in a base, at most `limit`. -/
def readDigitsIn? (base limit : Nat) (s : List Char) : Option Nat :=
  if s.isEmpty then none
  else
    let value? := (s.mapM (digit? base)).map fun vs => vs.foldl (fun n v => n * base + v) 0
    value?.filter (· ≤ limit)

/-- The digits after `0x`, `0o` or `0b`, with their base. -/
def basedDigits? : List Char → Option (Nat × List Char)
  | '0' :: 'x' :: r => some (16, r)
  | '0' :: 'o' :: r => some (8, r)
  | '0' :: 'b' :: r => some (2, r)
  | _ => none

/-- A text starts with a sign. -/
def isSigned (s : List Char) : Bool := s.head? == some '+' || s.head? == some '-'

/-- A whole number of at most `limit`: in decimal without needless zeros in front, or in another
base behind its mark. A single plus may come first. -/
def readWhole? (limit : Nat) (s : List Char) : Option Nat :=
  let body := Text.dropPlus s
  match basedDigits? body with
  | some (base, ds) => if isSigned ds then none else readDigitsIn? base limit ds
  | none =>
    let padded := 1 < body.length && body.head? == some '0' && body.all Char.isDigit
    if isSigned body || padded then none
    else readDigitsIn? 10 limit body

/-- A whole number. A number that 64 bits do not hold is none. -/
def readNat (limit : Nat) (d : Document) (n : Node) : Option Nat :=
  (readBare d "int" n).bind fun text =>
    (readWhole? Text.maxUInt64 text.toList).filter (· ≤ limit)

/-- A number, an infinity, or what is not a number. -/
def readFloat (d : Document) (n : Node) : Option Float :=
  (readBare d "float" n).bind fun text =>
    let unsigned := Text.dropPlus text.toList
    if unsigned.length < text.length && isSigned unsigned then none
    else if [".inf", ".Inf", ".INF"].contains (String.ofList unsigned) then some Number.infinity
    else if ["-.inf", "-.Inf", "-.INF"].contains text then some (-Number.infinity)
    else if [".nan", ".NaN", ".NAN"].contains text then some Number.nan
    else (Number.read? unsigned).filter Float.isFinite

/-- The ways to write that there is no value. -/
def isNull (text : String) : Bool := ["", "~", "null", "Null", "NULL"].contains text

/-- A value, or that there is none. -/
def readOption {α : Type} (read : Document → Node → Option α) (d : Document) (n : Node) :
    Option (Option α) :=
  match d.resolve n with
  | some (.scalar tag .plain text) =>
    match tag with
    | none => if isNull text then some none else (read d n).map some
    | some t =>
      if t = "tag:yaml.org,2002:null" then
        (if isNull text && !text.isEmpty then some none else none)
      else (read d n).map some
  | _ => (read d n).map some

/-- A list of values. -/
def readList {α : Type} (read : Document → Node → Option α) (d : Document) (n : Node) :
    Option (List α) :=
  match d.resolve n with
  | some (.sequence items) => items.mapM (read d)
  | some node => if isNothing node then some [] else none
  | none => none

/-- A member of a mapping with its name. -/
def readMember (d : Document) (member : Node × Node) : Option (String × Node) :=
  (readText d member.1).map fun name => (name, member.2)

/-- Each of the settings is named at most once. -/
def namesOnce (settings : List String) (s : Section) : Bool :=
  settings.all fun name => (s.filter fun m => m.1 == name).length ≤ 1

/-- A mapping, in which no name of a setting occurs twice. -/
def readSection (settings : List String) (d : Document) (n : Node) : Option Section :=
  match d.resolve n with
  | some (.mapping entries) =>
    (entries.mapM (readMember d)).filter (namesOnce settings)
  | some node => if isNothing node then some [] else none
  | none => none

/-- The value of a setting, or its default. -/
def setting {α : Type} (d : Document) (s : Section) (read : Document → Node → Option α)
    (name : String) (default : α) : Option α :=
  match s.lookup name with
  | some n => read d n
  | none => some default

/-- The names of the settings of the parallel pi test. -/
def piSettings : List String :=
  ["thread_counts", "num_points", "acceptable_low", "acceptable_high", "available_cores"]

/-- The settings of the parallel pi test. -/
def readPi (d : Document) (n : Node) : Option PiConfig := do
  let s ← readSection piSettings d n
  let base := PiConfig.default
  pure
    { threadCounts :=
        ← setting d s (readList (readNat Text.maxUInt32)) "thread_counts" base.threadCounts
      points := ← setting d s (readNat Text.maxUInt64) "num_points" base.points
      low := ← setting d s readFloat "acceptable_low" base.low
      high := ← setting d s readFloat "acceptable_high" base.high
      cores := ← setting d s (readOption (readNat Text.maxUInt32)) "available_cores" base.cores }

/-- The names of the settings of the message exchange test. -/
def exchangeSettings : List String :=
  ["clients", "exchanges", "messages", "workload_file", "corpus_file", "busy_wait_marker"]

/-- The settings of the message exchange test. -/
def readExchange (d : Document) (n : Node) : Option ExchangeConfig := do
  let s ← readSection exchangeSettings d n
  let base := ExchangeConfig.default
  pure
    { clients := ← setting d s (readNat Text.maxUInt32) "clients" base.clients
      exchanges := ← setting d s (readNat Text.maxUInt32) "exchanges" base.exchanges
      messages := ← setting d s (readNat Text.maxUInt64) "messages" base.messages
      workloadFile := ← setting d s readText "workload_file" base.workloadFile
      corpusFile := ← setting d s (readOption readText) "corpus_file" base.corpusFile
      busyMarker := ← setting d s (readOption readText) "busy_wait_marker" base.busyMarker }

/-- The names of the settings of the grader. -/
def settings : List String :=
  ["log_level", "log_dir", "log_file", "use_json", "rotation", "debug", "subject_dir",
    "artifacts_dir", "build_program", "build_timeout_secs", "run_timeout_secs", "pi", "exchange"]

/-- The settings of the grader. -/
def readConfig (d : Document) (n : Node) : Option Config := do
  let s ← readSection settings d n
  let base := Config.default
  pure
    { logLevel := ← setting d s readText "log_level" base.logLevel
      logDirectory := ← setting d s readText "log_dir" base.logDirectory
      logFile := ← setting d s readText "log_file" base.logFile
      useJson := ← setting d s readBool "use_json" base.useJson
      rotation := ← setting d s readText "rotation" base.rotation
      debug := ← setting d s readBool "debug" base.debug
      subjectDirectory := ← setting d s readText "subject_dir" base.subjectDirectory
      artifactsDirectory := ← setting d s readText "artifacts_dir" base.artifactsDirectory
      buildProgram := ← setting d s readText "build_program" base.buildProgram
      buildLimit := ← setting d s (readNat Text.maxUInt64) "build_timeout_secs" base.buildLimit
      runLimit := ← setting d s (readNat Text.maxUInt64) "run_timeout_secs" base.runLimit
      pi := ← setting d s readPi "pi" base.pi
      exchange := ← setting d s readExchange "exchange" base.exchange }

/-- The configuration that a YAML text holds, valid or not. A text without a document has all
defaults. -/
def parse? (yaml : String) : Option Config :=
  match Yaml.read yaml with
  | .error _ => none
  | .ok none => some default
  | .ok (some d) => readConfig d d.root

end Config
end Autograder
