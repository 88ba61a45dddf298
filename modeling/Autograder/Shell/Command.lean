/-
# Shell commands

The commands that a script is made of. A script is a sequence of bytes, and each byte is kept as the
character of its number.
-/

namespace Autograder
namespace Shell

/-- Where a stream of a command comes from or goes to. -/
inductive RedirectKind where
  | input
  | output
  /-- Output to a file even where files that are there must not be overwritten. -/
  | overwrite
  | append
  | inputAndOutput
  /-- The same as another stream, or nothing. -/
  | duplicate
  /-- The word itself is what is read. -/
  | here
  deriving DecidableEq

mutual

/-- A part of a word. What is not quoted can be split into several fields. -/
inductive Part where
  | text (s : List Char) (quoted : Bool)
  /-- The home directory. -/
  | home
  | parameter (name : List Char) (use : ParameterUse) (quoted : Bool)
  /-- What a command prints, without the line feeds at its end. -/
  | output (c : Command) (quoted : Bool)
  /-- The value of a calculation. -/
  | number (calculation : List Part) (quoted : Bool)

/-- What is done with the value of a parameter. -/
inductive ParameterUse where
  | value
  | length
  /-- Something else instead, if there is no value; or, with `orEmpty`, if it is empty. With
  `keep`, that becomes the value. -/
  | orElse (word : List Part) (orEmpty keep : Bool)
  /-- The script ends with a message, if there is no value; or, with `orEmpty`, if it is empty. -/
  | orFail (message : List Part) (orEmpty : Bool)
  /-- Something else instead, if there is a value; or, with `notEmpty`, if it is not empty. -/
  | ifThere (word : List Part) (notEmpty : Bool)
  /-- The value without the part at its end, or at its start, that a pattern matches. -/
  | without (pattern : List Part) (atEnd longest : Bool)
  /-- What no shell understands. -/
  | unknown

/-- A redirection of the stream of a number. -/
inductive Redirect where
  | to (stream : Nat) (kind : RedirectKind) (target : List Part)

/-- A command. Some know the line of the script that they stand on. -/
inductive Command where
  | nothing
  /-- Assignments, a name and arguments, and redirections. -/
  | simple (line : Nat) (assignments : List (List Char × List Part)) (words : List (List Part))
      (redirects : List Redirect)
  | pipe (left right : Command)
  | negate (c : Command)
  | andThen (left right : Command)
  | orElse (left right : Command)
  | sequence (left right : Command)
  /-- The script does not wait for the end of this. -/
  | background (c : Command)
  /-- This is run by a shell of its own. -/
  | apart (c : Command)
  | choice (test yes no : Command)
  /-- The body is repeated while the test succeeds, or until it does. -/
  | loop (untilTrue : Bool) (test body : Command)
  /-- The body is repeated for each of the words, or for each argument of the script. -/
  | forEach (name : List Char) (items : Option (List (List Part))) (body : Command)
  | select (subject : List Part) (arms : List (List (List Part) × Command))
  | define (name : List Char) (body : Command)
  | redirected (line : Nat) (c : Command) (redirects : List Redirect)

end

/-- A word. -/
abbrev Word := List Part

/-- The stream that a redirection is for. -/
def Redirect.stream : Redirect → Nat
  | .to stream _ _ => stream

end Shell
end Autograder
