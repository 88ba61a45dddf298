/-
# Programs on records

A program that is run on each record of a text. It has rules, of which each has a pattern and an
action, and functions. What it calculates with are numbers, texts and tables from texts to values.
-/

import Autograder.Shell.Regex.Reader

namespace Autograder
namespace Shell
namespace Records

/-- An operator between two values. -/
inductive Operator where
  | add
  | subtract
  | multiply
  | divide
  | remainder
  | power
  | join
  | less
  | lessOrEqual
  | equal
  | notEqual
  | greater
  | greaterOrEqual
  deriving DecidableEq

/-- Where a line comes from: the records themselves, a file, or what a command prints. -/
inductive LineOrigin where
  | records
  | file
  | command
  deriving DecidableEq

/-- An expression. -/
inductive Expr where
  | number (x : Float)
  | text (s : List Char)
  /-- The record is matched by this. -/
  | regex (r : Regex)
  /-- Several values between parentheses. -/
  | several (es : List Expr)
  | variable (name : List Char)
  | field (place : Expr)
  | item (table : List Char) (keys : List Expr)
  | assign (target : Expr) (op : Option Operator) (value : Expr)
  /-- A target goes up or down by one; the value is that before or after. -/
  | count (target : Expr) (up before : Bool)
  | negate (e : Expr)
  | positive (e : Expr)
  | not (e : Expr)
  | operate (op : Operator) (left right : Expr)
  | both (left right : Expr)
  | either (left right : Expr)
  | choice (test yes no : Expr)
  | isMatch (negated : Bool) (e pattern : Expr)
  | isKey (keys : List Expr) (table : List Char)
  | call (function : List Char) (arguments : List Expr)
  | usual (function : String) (arguments : List Expr)
  /-- A line is read, and becomes the record or the value of a target. -/
  | readLine (origin : LineOrigin) (source target : Option Expr)

/-- Where what is printed goes. -/
inductive Direction where
  | overwrite
  | append
  | command
  deriving DecidableEq

/-- A statement. -/
inductive Statement where
  | nothing
  | expr (e : Expr)
  | print (values : List Expr) (sink : Option (Direction × Expr))
  | printFormatted (values : List Expr) (sink : Option (Direction × Expr))
  | sequence (first second : Statement)
  | choice (test : Expr) (yes no : Statement)
  /-- The body is repeated while the test holds, which is looked at first unless it is `late`; after
  each turn something else is done. -/
  | loop (late : Bool) (test : Option Expr) (after body : Statement)
  | forEach (name table : List Char) (body : Statement)
  | leave
  | again
  | next
  | exit (status : Option Expr)
  | giveBack (value : Option Expr)
  | delete (table : List Char) (keys : Option (List Expr))

/-- When the action of a rule is run. -/
inductive Pattern where
  | start
  | finish
  | always
  | test (e : Expr)
  /-- From a record for which the first holds up to one for which the second does. -/
  | range (first last : Expr)

/-- A rule. -/
structure Rule where
  pattern : Pattern
  action : Statement

/-- A function. -/
structure Function where
  name : List Char
  parameters : List (List Char)
  body : Statement

/-- A program. -/
structure Program where
  rules : List Rule
  functions : List Function

/-- What can be wrong with a program, and on which line. -/
inductive Fault where
  | unexpected (line : Nat) (token : String)
  | missing (line : Nat) (bracket token : String)
  | unknownChar (line : Nat) (c : Char)
  | openText (line : Nat) (start : List Char)
  | openRegex (line : Nat) (start : List Char)
  | badRegex (line : Nat) (start : List Char)
  | noFunction (line : Nat) (name : List Char)
  | misplaced (line : Nat) (message : String)

/-- A fault in words. -/
def Fault.message : Fault → List Char
  | .unexpected line token => start line ++ ("syntax error at or near " ++ token).toList
  | .missing line bracket token => start line ++ ("missing " ++ bracket ++ " near " ++ token).toList
  | .unknownChar line c =>
    Nat.toDigits 10 line ++ (": unexpected character '").toList ++ [c, '\'']
  | .openText line s => start line ++ "runaway string constant \"".toList ++ s ++ " ...".toList
  | .openRegex line s => start line ++ "runaway regular expression /".toList ++ s ++ " ...".toList
  | .badRegex line s => start line ++ "regular expression compile failed\n".toList ++ s
  | .noFunction line name =>
    start line ++ "function ".toList ++ name ++ " never defined".toList
  | .misplaced line message => start line ++ message.toList
where
  start (line : Nat) : List Char := "line ".toList ++ Nat.toDigits 10 line ++ [':', ' ']

end Records
end Shell
end Autograder
