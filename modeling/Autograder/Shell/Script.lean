/-
# What is left of a script

A script is read character by character, and its lines are counted for messages. A backslash in
front of a line feed is passed over together with it. A text that stands on the lines below is taken
out of the script where it is asked for, and its lines are counted at the end of the line that asks.
-/

import Autograder.Shell.Token

namespace Autograder
namespace Shell

/-- What is left of a script: its characters, the number of the line they start on, how many lines
have been taken out behind that line, a token that has been read ahead, and what commands are also
called. -/
structure Script where
  rest : List Char
  line : Nat
  skipped : Nat
  ahead : Option Token
  aliases : List (List Char × List Char)

namespace Script

/-- A script that starts on a line of the given number. -/
def ofText (line : Nat) (s : List Char) : Script := ⟨s, line, 0, none, []⟩

/-- The command that is also called by a token. -/
def alias? (s : Script) (t : Token) : Option (List Char × List Char) :=
  match t with
  | .word w => s.aliases.find? fun a => some a.1 == plainText? w
  | _ => none

/-- After one more character. -/
def advance (s : Script) : Script :=
  match s.rest with
  | [] => s
  | c :: r =>
    if c = '\n' then { s with rest := r, line := s.line + 1 + s.skipped, skipped := 0 }
    else { s with rest := r }

/-- The characters behind any line feeds that have a backslash in front of them, and how many of them
there are besides `count`. -/
def joinLines (count : Nat) : List Char → List Char × Nat
  | '\\' :: '\n' :: r => joinLines (count + 1) r
  | r => (r, count)

/-- After the lines that a backslash joins with the next are passed over. -/
def joined (s : Script) : Script :=
  match joinLines 0 s.rest with
  | (_, 0) => s
  | (rest, count) => { s with rest := rest, line := s.line + count + s.skipped, skipped := 0 }

end Script

/-- A step of the reading of a script. A fault comes with the number of its line. -/
abbrev Reading := StateT Script (Except (Fault × Nat))

namespace Reading

/-- A failed step. -/
def fail {α : Type} (f : Fault) : Reading α := fun s => .error (f, s.line)

/-- The next character. -/
def head? : Reading (Option Char) := fun s =>
  let s := s.joined
  .ok (s.rest.head?, s)

/-- The characters that follow the next one start with the given one. -/
def isSecond (c : Char) : Reading Bool := fun s => .ok ((s.rest.drop 1).head? == some c, s)

/-- Passes over the next character. -/
def skip : Reading Unit := fun s => .ok ((), s.advance)

/-- Passes over the next character if it is the given one, and tells whether it is. -/
def skipIf (c : Char) : Reading Bool := fun s =>
  let s := s.joined
  if s.rest.head? == some c then .ok (true, s.advance) else .ok (false, s)

/-- The characters up to one that does not have a property, and none of them a line feed. -/
def takeWhile (p : Char → Bool) : Reading (List Char) := fun s =>
  let taken := s.rest.takeWhile p
  .ok (taken, { s with rest := s.rest.drop taken.length })

/-- Takes a token back. -/
def unread (t : Token) : Reading Unit := fun s => .ok ((), { s with ahead := some t })

/-- The number of the line. -/
def line : Reading Nat := fun s => .ok (s.line, s)

/-- Goes on with the steps from another script, and then with this one. -/
def within {α : Type} (s : Script) (r : Reading α) : Reading α := fun outside =>
  match r s with
  | .ok (a, _) => .ok (a, outside)
  | .error e => .error e

end Reading

/-- The lines before the first that is `last`, how many lines that takes, and what follows. With
`tabs`, the tabs that a line starts with do not count. The current line has begun with `line`, in
reverse. -/
def takeBody (last : List Char) (tabs : Bool) (count : Nat) (done line : List Char) :
    List Char → List Char × Nat × List Char
  | [] => ((if line.reverse = last then done else line ++ done).reverse, count, [])
  | c :: r =>
    if c = '\n' then
      if line.reverse = last then (done.reverse, count + 1, r)
      else takeBody last tabs (count + 1) ('\n' :: (line ++ done)) [] r
    else if tabs && line.isEmpty && c = '\t' then takeBody last tabs count done [] r
    else takeBody last tabs count done (c :: line) r

/-- Takes out of the script the text that stands on the lines below, up to a line that is `last`. -/
def Reading.takeBelow (last : List Char) (tabs : Bool) : Reading (List Char) := fun s =>
  let line := s.rest.takeWhile (· != '\n')
  let (body, count, rest) := takeBody last tabs 0 [] [] (s.rest.drop (line.length + 1))
  .ok (body, { s with rest := line ++ '\n' :: rest, skipped := s.skipped + count })

/-- Characters up to the next backquote, which is passed over. A backslash can quote a backquote, a
backslash and a dollar sign; those of `done` come before, in reverse. -/
def takeBackquoted (quoted : Bool) (done : List Char) : List Char → Option (List Char × List Char)
  | [] => none
  | '\\' :: c :: r =>
    if c = backquote || c = '\\' || c = '$' || (quoted && c = '"') then
      takeBackquoted quoted (c :: done) r
    else takeBackquoted quoted (c :: '\\' :: done) r
  | c :: r =>
    if c = backquote then some (done.reverse, r) else takeBackquoted quoted (c :: done) r

end Shell
end Autograder
