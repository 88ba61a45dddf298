/-
# Editing programs

A program that edits lines: each of its steps has a function and may be for some lines only. A line
is edited by going through the steps from the first to the last, unless one of them leads elsewhere.
-/

import Autograder.Shell.Regex.Reader

namespace Autograder
namespace Shell
namespace Editing

/-- Which lines a step is for, or where that begins. -/
inductive Address where
  | line (n : Nat)
  | last
  /-- The lines that a regular expression matches; without one, the last that was used. -/
  | regex (r : Option Regex)
  /-- A line and every so many lines after it. -/
  | step (first step : Nat)
  deriving Inhabited

/-- Where the lines of a step end. -/
inductive AddressEnd where
  | address (a : Address)
  /-- So many lines behind the first. -/
  | after (n : Nat)
  /-- At a line whose number is a multiple. -/
  | multiple (n : Nat)

/-- A part of what stands instead of a match. -/
inductive Piece where
  | text (s : List Char)
  | group (n : Nat)
  /-- From here on letters are capital, or small, or as they are. -/
  | caseOf (upper : Option Bool)
  /-- The next letter is capital, or small. -/
  | nextCase (upper : Bool)

/-- A replacement of matches: from which on, whether of all of these, and what is done with a line
where there was one. -/
structure Substitution where
  regex : Option Regex
  pieces : List Piece
  first : Nat
  all : Bool
  shows : Bool
  file : Option (List Char)

/-- What a step does. -/
inductive Action where
  /-- The steps up to a place are passed over where this is not for the line. -/
  | block (finish : Nat)
  | nothing
  | substitute (s : Substitution)
  /-- Characters are replaced by others. -/
  | replaceChars (table : List (Char × Char))
  | delete
  /-- The first line goes, and the rest is edited again. -/
  | deleteFirst
  | show
  | showFirst
  | showNumber
  | showVisibly
  | showName
  | next
  | addNext
  | hold
  | addToHold
  | fetch
  | addFetched
  | exchange
  | empty
  | append (s : List Char)
  | insert (s : List Char)
  | change (s : List Char)
  | appendFile (path : List Char)
  | writeFile (path : List Char)
  | writeFirst (path : List Char)
  | quit (shows : Bool) (status : Nat)
  /-- The program goes on at a label or ends; possibly only if something was replaced, or if nothing
  was. -/
  | jump (label : List Char) (onReplaced : Option Bool)
  | label (name : List Char)

/-- A step. -/
structure Step where
  first : Option Address
  last : Option AddressEnd
  negated : Bool
  action : Action

/-- A program. -/
abbrev Program := Array Step

end Editing
end Shell
end Autograder
