/-
# Reports as JSON

A report is an object with the members `output` and `tests`. When a report is read, members of other
names are passed over, each member of its own must stand there exactly once, and an array of the
values in order is taken for the object.
-/

import Autograder.Json.Printer
import Autograder.Json.Reader
import Autograder.Report

namespace Autograder
namespace Json

/-- A number as a value; what is not a finite number is `null`. -/
def Value.ofFloat (x : Float) : Value :=
  match inReport? x with
  | some text => .number text.toList
  | none => .null

/-- The text of a string. -/
def Value.text? : Value → Option String
  | .string s => some s
  | _ => none

/-- The double that a number stands for. -/
def Value.float? : Value → Option Float
  | .number literal => readNumber? literal
  | _ => none

/-- The items of an array. -/
def Value.items? : Value → Option (List Value)
  | .array items => some items
  | _ => none

/-- The value of a member that an object has exactly once. -/
def member? (members : List (String × Value)) (name : String) : Option Value :=
  match members.filter fun m => m.1 == name with
  | [(_, v)] => some v
  | _ => none

/-- The values of an object's members of the given names, in this order; or those of an array with
as many items. -/
def Value.fields? (names : List String) : Value → Option (List Value)
  | .object members => names.mapM (member? members)
  | .array items => if items.length = names.length then some items else none
  | _ => none

end Json

open Json

namespace ReportEntry

/-- The entry as a value. -/
def toValue (e : ReportEntry) : Value :=
  .object [("score", .ofFloat e.score), ("max_score", .ofFloat e.maxScore),
    ("name", .string e.name), ("output", .string e.output), ("visibility", .string e.visibility)]

/-- The entry that a value stands for. -/
def ofValue? (v : Value) : Option ReportEntry := do
  match ← v.fields? ["score", "max_score", "name", "output", "visibility"] with
  | [score, maxScore, name, output, visibility] =>
    some ⟨← score.float?, ← maxScore.float?, ← name.text?, ← output.text?, ← visibility.text?⟩
  | _ => none

end ReportEntry

namespace Report

/-- The report as a value. -/
def toValue (r : Report) : Value :=
  .object [("output", .string r.output), ("tests", .array (r.entries.map ReportEntry.toValue))]

/-- The report that a value stands for. -/
def ofValue? (v : Value) : Option Report := do
  match ← v.fields? ["output", "tests"] with
  | [output, tests] => some ⟨← output.text?, ← (← tests.items?).mapM ReportEntry.ofValue?⟩
  | _ => none

/-- The report as a JSON text. -/
def toJson (r : Report) : String := r.toValue.pretty

/-- The report that a JSON text holds. -/
def ofJson? (text : String) : Option Report := (Json.read? text).bind ofValue?

end Report
end Autograder
