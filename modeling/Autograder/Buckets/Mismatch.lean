/-
# The first difference between two bucket sets

The numbers of clients are compared first, then the buckets one after the other. In a bucket the
number of payloads is compared before the payloads, so that a lost message shows as a count and
not as a run of shifted payloads.
-/

import Autograder.Buckets

namespace Autograder

/-- A difference between what was expected and what was delivered. -/
inductive Mismatch where
  | clientCount (expected actual : Nat)
  | count (client expected actual : Nat)
  /-- The payloads at a position of a bucket differ; positions count from 0. -/
  | payload (client position : Nat) (expected actual : String)
  deriving DecidableEq, Repr

namespace Mismatch

/-- The difference in words; positions are shown counting from 1. -/
def message : Mismatch → String
  | .clientCount expected actual =>
    "expected " ++ toString expected ++ " clients, output covers " ++ toString actual
  | .count client expected actual =>
    "client " ++ toString client ++ " should receive " ++ toString expected ++
      " messages but received " ++ toString actual
  | .payload client position expected actual =>
    "client " ++ toString client ++ " sorted message #" ++ toString (position + 1) ++
      " differs\n  expected: " ++ expected ++ "\n  got:      " ++ actual

/-- The first position, counted from `position`, at which two lists differ, with both entries. -/
def firstDifference? (position : Nat) : List String → List String → Option (Nat × String × String)
  | want :: wants, got :: gots =>
    if want = got then firstDifference? (position + 1) wants gots else some (position, want, got)
  | _, _ => none

/-- The first difference between two buckets of a client. -/
def ofBuckets? (client : Nat) (want got : List String) : Option Mismatch :=
  if want.length ≠ got.length then some (.count client want.length got.length)
  else (firstDifference? 0 want got).map fun (position, w, g) => .payload client position w g

end Mismatch

namespace BucketSet

/-- The first difference between two bucket sets. -/
def firstMismatch? (expected actual : BucketSet) : Option Mismatch :=
  if expected.clientCount ≠ actual.clientCount then
    some (.clientCount expected.clientCount actual.clientCount)
  else
    expected.entries.findSome? fun (client, want) =>
      Mismatch.ofBuckets? client want (actual.bucket client)

/-- No difference is found. -/
def agrees (expected actual : BucketSet) : Bool := (firstMismatch? expected actual).isNone

end BucketSet
end Autograder
