/-
# Shell patterns

In a pattern an asterisk stands for any text, a question mark for any character, and characters
between brackets for one of them. Each character comes with whether it can have such a meaning:
what was quoted cannot.
-/

import Autograder.Files.Tree
import Autograder.Shell.Machine

namespace Autograder
namespace Shell

/-- The characters of a pattern, and whether they can be special. -/
abbrev Pattern := List (Char × Bool)

namespace Pattern

/-- The characters, without any meaning. -/
def letters (p : Pattern) : List Char := p.map Prod.fst

/-- The classes of characters that have a name. -/
def class? (name : String) : Option (Char → Bool) :=
  match name with
  | "alpha" => some Char.isAlpha
  | "digit" => some Char.isDigit
  | "alnum" => some Char.isAlphanum
  | "upper" => some Char.isUpper
  | "lower" => some Char.isLower
  | "space" => some fun c => c == ' ' || ('\t' ≤ c && c ≤ '\r')
  | "blank" => some fun c => c == ' ' || c == '\t'
  | "cntrl" => some fun c => c.toNat < 0x20 || c.toNat == 0x7F
  | "print" => some fun c => 0x20 ≤ c.toNat && c.toNat < 0x7F
  | "graph" => some fun c => 0x20 < c.toNat && c.toNat < 0x7F
  | "punct" => some fun c => 0x20 < c.toNat && c.toNat < 0x7F && !c.isAlphanum
  | "xdigit" => some fun c => c.isDigit || ('a' ≤ c && c ≤ 'f') || ('A' ≤ c && c ≤ 'F')
  | _ => none

/-- The class that is named at the start of the inside of brackets, and the length of its name there:
`[:alpha:]` names one. -/
def classAt? (p : Pattern) : Option ((Char → Bool) × Nat) :=
  match p with
  | ('[', true) :: (':', _) :: r =>
    let name := (letters r).takeWhile Char.isAlpha
    if ((letters r).drop name.length).take 2 = [':', ']'] then
      (class? (String.ofList name)).map fun f => (f, name.length + 4)
    else none
  | _ => none

/-- A character is one of those described by the inside of a pair of brackets. -/
def isAmong (c : Char) (p : Pattern) : Bool :=
  match p with
  | [] => false
  | (a, _) :: r =>
    match classAt? p with
    | some (f, n) => f c || isAmong c (r.drop (n - 1))
    | none =>
      match r with
      | ('-', true) :: (b, _) :: r => (a ≤ c && c ≤ b) || isAmong c r
      | r => a == c || isAmong c r
termination_by p.length

/-- How many characters come before the bracket that closes a set whose inside goes on here. -/
def insideLength? (p : Pattern) : Option Nat :=
  match p with
  | [] => none
  | (c, special) :: r =>
    match classAt? p with
    | some (_, n) => (insideLength? (r.drop (n - 1))).map (· + n)
    | none => if special && c == ']' then some 0 else (insideLength? r).map (· + 1)
termination_by p.length

/-- An exclamation mark in front of a set is for all other characters. -/
def isNegated (p : Pattern) : Bool :=
  match p with
  | ('!', true) :: _ | ('^', true) :: _ => true
  | _ => false

/-- The length of the inside of a pair of brackets whose first has been read. A bracket right at the
start belongs to it. -/
def setLength? (p : Pattern) : Option Nat :=
  let start := if isNegated p then 1 else 0
  match p.drop start with
  | [] => none
  | x :: r =>
    if (classAt? (x :: r)).isSome then (insideLength? (x :: r)).map (· + start)
    else (insideLength? r).map (· + start + 1)

/-- A character is described by the inside of a pair of brackets. -/
def isInside (c : Char) (p : Pattern) : Bool :=
  if isNegated p then !isAmong c (p.drop 1) else isAmong c p

/-- The pattern matches the whole text. -/
def isMatch : Pattern → List Char → Bool
  | [], s => s.isEmpty
  | (p, special) :: ps, s =>
    if special && p == '*' then
      isMatch ps s ||
        match s with
        | [] => false
        | _ :: cs => isMatch ((p, special) :: ps) cs
    else
      match s with
      | [] => false
      | c :: cs =>
        match if special && p == '[' then setLength? ps else none with
        | some n => isInside c (ps.take n) && isMatch (ps.drop (n + 1)) cs
        | none => ((special && p == '?') || p == c) && isMatch ps cs
termination_by p s => p.length + s.length

/-- The pattern can match more than one text. -/
def isOpen (p : Pattern) : Bool :=
  p.any fun (c, special) => special && (c == '*' || c == '?' || c == '[')

/-- The names of a pattern of paths whose current name has begun with the characters of `name`, in
reverse. -/
def namesFrom (name : Pattern) : Pattern → List Pattern
  | [] => [name.reverse]
  | (c, special) :: r =>
    if c = '/' then name.reverse :: namesFrom [] r else namesFrom ((c, special) :: name) r

/-- The names in a directory that a pattern matches. A dot at the start has to be given. -/
def matching (fs : Files) (directory : List Char) (p : Pattern) : List (List Char) :=
  match fs.find (if directory.isEmpty then "." else toText directory) with
  | .ok (place, .directory) =>
    (("." :: ".." :: fs.list place).map bytesOf).filter fun name =>
      (name.head? != some '.' || p.letters.head? == some '.') && isMatch p name
  | _ => []

/-- The paths that start with `done` and go on with names that patterns match. -/
def paths (fs : Files) : List Char → List Pattern → List (List Char)
  | done, [] => [done]
  | done, p :: ps =>
    let names := if p.isOpen then matching fs done p else [p.letters]
    names.flatMap fun name =>
      let path := done ++ name
      if ps.isEmpty then
        if p.isOpen || fs.exists? (toText path) then [path] else []
      else paths fs (path ++ ['/']) ps

/-- The paths that a pattern matches, or the pattern itself if there are none. -/
def expand (fs : Files) (p : Pattern) : List (List Char) :=
  if p.isOpen then
    match paths fs [] (namesFrom [] p) with
    | [] => [p.letters]
    | found => found
  else [p.letters]

/-- A text without the longest or shortest part at its start that the pattern matches, given all
its parts from the shortest to the longest. -/
def firstRest? (p : Pattern) (cuts : List (List Char × List Char)) : Option (List Char) :=
  (cuts.find? fun (part, _) => isMatch p part).map Prod.snd

/-- A text without the part at its start, or at its end, that the pattern matches. -/
def cutFrom (p : Pattern) (atEnd longest : Bool) (s : List Char) : List Char :=
  let lengths := List.range (s.length + 1)
  let lengths := if longest then lengths.reverse else lengths
  let cuts := lengths.map fun n =>
    if atEnd then (s.drop (s.length - n), s.take (s.length - n)) else (s.take n, s.drop n)
  (firstRest? p cuts).getD s

end Pattern
end Shell
end Autograder
