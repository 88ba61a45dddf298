/-
# The corpus of payloads

The texts that messages are drawn from. A corpus file holds its entries one to a line, or, if some
line holds nothing but a percent sign, the lines between such separators as one entry each. Blank
entries are dropped, and a corpus without entries is refused, so that there is always one to draw.
-/

import Autograder.Text.Blank
import Autograder.Text.Lines

namespace Autograder

/-- The texts to draw payloads from: at least one. -/
structure Corpus where
  entries : List String
  nonempty : 0 < entries.length

namespace Corpus

/-- The corpus of the given entries without the blank ones; `none` if no entry is left. -/
def ofEntries? (entries : List String) : Option Corpus :=
  let kept := entries.filter fun e => !Text.isAllBlank e.toList
  if h : 0 < kept.length then some ⟨kept, h⟩ else none

/-- A line that separates entries. -/
def isSeparator (line : List Char) : Bool := Text.trimEnd line == ['%']

/-- An entry with one more line. A line feed joins it to what the entry has so far. -/
def addLine (entry line : List Char) : List Char :=
  if entry.isEmpty then line else entry ++ '\n' :: line

/-- The entries between separators, when `entry` has been begun. -/
def entriesFrom (entry : List Char) : List (List Char) → List (List Char)
  | [] => [entry]
  | line :: rest =>
    if isSeparator line then entry :: entriesFrom [] rest
    else entriesFrom (addLine entry line) rest

/-- The entries of a corpus file, blank ones included. -/
def rawEntries (text : List Char) : List (List Char) :=
  let lines := Text.lines text
  if lines.any isSeparator then entriesFrom [] lines else lines

/-- The corpus that a file holds. -/
def read? (text : String) : Option Corpus :=
  ofEntries? ((rawEntries text.toList).map String.ofList)

/-- The entries that are drawn from when no corpus file is configured. -/
def builtinEntries : List String := [
  "Real programmers don't comment their code. If it was hard to write, it should be hard to understand.",
  "There are two hard problems in computer science: cache invalidation, naming things, and off-by-one errors.",
  "A deadlock is when two threads are each waiting politely for the other to go first.",
  "Premature optimization is the root of all evil.",
  "If debugging is the process of removing bugs, then programming must be the process of putting them in.",
  "Never test for an error condition you don't know how to handle.",
  "The trouble with the world is that the stupid are cocksure and the intelligent are full of doubt.",
  "Beware of bugs in the above code; I have only proved it correct, not tried it.",
  "Any sufficiently advanced bug is indistinguishable from a feature.",
  "Concurrency is not parallelism:\nit is about dealing with lots of things at once.",
  "Mutex: a device that lets exactly one thread be disappointed at a time.",
  "Unix is user-friendly. It's just very selective about who its friends are.",
  "The best way to predict the future is to implement it.",
  "It works on my machine.",
  "Every program has at least one bug and can be shortened by at least one instruction.",
  "Spin locks: because sometimes you just want to burn a core while you wait."]

/-- The corpus that is drawn from when no corpus file is configured. -/
def builtin : Corpus := ⟨builtinEntries, by decide⟩

end Corpus
end Autograder
