/-
# Lines

A line ends at a line feed, and a carriage return right before that line feed ends with it. What
follows the last line feed is a line only if it is not empty, and keeps its carriage returns.
-/

namespace Autograder
namespace Text

/-- A finished line, its characters in reverse: one carriage return at its end is dropped. -/
def closeLine : List Char → List Char
  | '\r' :: r => r.reverse
  | l => l.reverse

/-- The lines of a text whose current line has begun with the characters of `line`, in reverse. -/
def linesFrom (line : List Char) : List Char → List (List Char)
  | [] => if line.isEmpty then [] else [line.reverse]
  | c :: r => if c = '\n' then closeLine line :: linesFrom [] r else linesFrom (c :: line) r

/-- The lines of a text, without their ends. -/
def lines (s : List Char) : List (List Char) := linesFrom [] s

/-- The lines of a text with their numbers, the first being 1. -/
def numberedLines (s : List Char) : List (List Char × Nat) := (lines s).zipIdx 1

/-- The parts before and after the first occurrence of a character; `none` without one. -/
def splitAtFirst (sep : Char) (s : List Char) : Option (List Char × List Char) :=
  match s.dropWhile (· != sep) with
  | [] => none
  | _ :: rest => some (s.takeWhile (· != sep), rest)

end Text
end Autograder
