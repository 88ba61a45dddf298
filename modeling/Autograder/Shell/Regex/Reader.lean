/-
# Reading regular expressions

Regular expressions are written in two ways: in the basic one, a backslash gives parentheses, braces,
the bar, the plus and the question mark their meaning, and in the extended one it takes it away.
-/

import Autograder.Shell.Pattern
import Autograder.Shell.Regex

namespace Autograder
namespace Shell
namespace Regex

/-- What can be wrong with a regular expression. -/
inductive Fault where
  | openBracket
  | openParen
  | closingParen
  | openBrace
  | badBrace
  | badRange
  | badClass
  | backslashAtEnd
  | nothingToRepeat
  | badReference
  deriving DecidableEq

/-- A fault in words. -/
def Fault.message : Fault → String
  | .openBracket => "Unmatched [, [^, [:, [., or [="
  | .openParen => "Unmatched ( or \\("
  | .closingParen => "Unmatched ) or \\)"
  | .openBrace => "Unmatched \\\x7b"
  | .badBrace => "Invalid content of \\\x7b\\\x7d"
  | .badRange => "Invalid range end"
  | .badClass => "Invalid character class name"
  | .backslashAtEnd => "Trailing backslash"
  | .nothingToRepeat => "Invalid preceding regular expression"
  | .badReference => "Invalid back reference"

/-- How a regular expression is written. With `escapes`, a backslash and a letter stand for what they
do in strings, and with `inBrackets`, a backslash between brackets quotes any character. -/
structure Dialect where
  extended : Bool
  ignoreCase : Bool
  escapes : Bool
  inBrackets : Bool

/-- What is left of a regular expression, the number of the groups that have begun, and of those that
have ended. -/
structure Progress where
  rest : List Char
  groups : Nat
  closed : List Nat

/-- A step of the reading of a regular expression. -/
abbrev Reading := StateT Progress (Except Fault)

/-- All characters. -/
def allChars : List Char := (List.range 256).map Char.ofNat

/-- The characters that a class has. -/
def classOf (f : Char → Bool) : List Char := allChars.filter f

/-- A character with its other case. -/
def bothCases (c : Char) : List Char :=
  if c.isUpper then [c, c.toLower] else if c.isLower then [c, c.toUpper] else [c]

/-- A character as a regular expression. -/
def ofChar (d : Dialect) (c : Char) : Regex :=
  if d.ignoreCase && c.isAlpha then .set (bothCases c) else .char c

/-- Some characters, or all others, as a regular expression. -/
def ofSet (d : Dialect) (negated : Bool) (members : List Char) : Regex :=
  let members := if d.ignoreCase then members.flatMap bothCases else members
  .set (if negated then allChars.filter fun c => !members.contains c else members)

/-- What a letter behind a backslash stands for in strings. -/
def escapedChar? : Char → Option Char
  | 'n' => some '\n'
  | 't' => some '\t'
  | 'r' => some '\r'
  | 'f' => some '\x0C'
  | 'v' => some '\x0B'
  | 'a' => some '\x07'
  | _ => none

/-- One character of the inside of a pair of brackets, and what follows. -/
def member (d : Dialect) : List Char → Except Fault (Char × List Char)
  | [] => .error .openBracket
  | '[' :: k :: c :: l :: ']' :: r =>
    if (k = '.' || k = '=') && l = k then .ok (c, r) else .ok ('[', k :: c :: l :: ']' :: r)
  | '\\' :: c :: r =>
    match if d.escapes then escapedChar? c else none with
    | some e => .ok (e, r)
    | none => if d.inBrackets then .ok (c, r) else .ok ('\\', c :: r)
  | c :: r => .ok (c, r)

/-- The inside of a pair of brackets, behind the first of them: the characters, and what follows.
Those of `done` come before. -/
def readMembers (d : Dialect) : Nat → (done : List Char) → (first : Bool) → List Char →
    Except Fault (List Char × List Char)
  | 0, _, _, _ => .error .openBracket
  | fuel + 1, done, first, s => do
    if s.head? == some ']' && !first then return (done, s.drop 1)
    let name := (s.drop 2).takeWhile Char.isAlpha
    let isClass := s.take 2 = ['[', ':'] && (s.drop (2 + name.length)).take 2 = [':', ']']
    if isClass then
      match Pattern.class? (String.ofList name) with
      | some f => readMembers d fuel (done ++ classOf f) false (s.drop (4 + name.length))
      | none => .error .badClass
    else
      let (c, r) ← member d s
      if r.head? == some '-' && 1 < r.length && (r.drop 1).head? != some ']' then
        let (e, r) ← member d (r.drop 1)
        if e < c then .error .badRange
        else
          let range := allChars.filter fun x => c ≤ x && x ≤ e
          readMembers d fuel (done ++ range) false r
      else readMembers d fuel (done ++ [c]) false r

/-- The characters that are left. -/
def restOf : Reading (List Char) := do pure (← get).rest

/-- Passes over some characters. -/
def drop (n : Nat) : Reading Unit := modify fun p => { p with rest := p.rest.drop n }

/-- An operator comes next: a character that has its meaning in one way of writing with a backslash,
and in the other without. -/
def isNext (d : Dialect) (c : Char) : Reading Bool := do
  let r ← restOf
  pure (if d.extended then r.head? == some c else r.take 2 == ['\\', c])

/-- Passes over such an operator. -/
def dropOperator (d : Dialect) : Reading Unit := drop (if d.extended then 1 else 2)

/-- The bounds of a repetition in braces, behind the first of them, and how many characters they
take. -/
def bounds? (d : Dialect) (s : List Char) : Option (Nat × Option Nat × Nat) :=
  let least := s.takeWhile Char.isDigit
  let r := s.drop least.length
  let closes (r : List Char) : Option Nat :=
    if d.extended then if r.head? == some '\x7d' then some 1 else none
    else if r.take 2 = ['\\', '\x7d'] then some 2 else none
  let n := Nat.ofDigitChars 10 least 0
  match r with
  | ',' :: r =>
    let most := r.takeWhile Char.isDigit
    (closes (r.drop most.length)).map fun k =>
      (n, if most.isEmpty then none else some (Nat.ofDigitChars 10 most 0),
        least.length + 1 + most.length + k)
  | r =>
    if least.isEmpty then none else (closes r).map fun k => (n, some n, least.length + k)

/-- Repetitions of a part that has been read. -/
def readRepeats (d : Dialect) : Nat → Regex → Reading Regex
  | 0, r => pure r
  | fuel + 1, r => do
    let s ← restOf
    if s.head? == some '*' then do
      drop 1
      readRepeats d fuel (.loop r 0 none)
    else if ← isNext d '+' then do
      dropOperator d
      readRepeats d fuel (.loop r 1 none)
    else if ← isNext d '?' then do
      dropOperator d
      readRepeats d fuel (.loop r 0 (some 1))
    else if ← isNext d '\x7b' then do
      let start := if d.extended then 1 else 2
      match bounds? d (s.drop start) with
      | some (least, most, length) => do
        if most.any (· < least) then throw .badBrace
        drop (start + length)
        readRepeats d fuel (.loop r least most)
      | none => if d.extended then pure r else throw .openBrace
    else pure r

/-- What a backslash and a character stand for, where that is no operator. -/
def ofEscape (d : Dialect) (c : Char) : Reading Regex := do
  let ofClass (f : Char → Bool) : Regex := .set (classOf f)
  let isSpace (c : Char) : Bool := c == ' ' || ('\t' ≤ c && c ≤ '\r')
  match c with
  | 'w' => pure (ofClass isWordChar)
  | 'W' => pure (ofClass fun c => !isWordChar c)
  | 's' => pure (ofClass isSpace)
  | 'S' => pure (ofClass fun c => !isSpace c)
  | 'b' => pure (.edge .wordEdge)
  | 'B' => pure (.edge .noWordEdge)
  | '<' => pure (.edge .wordStart)
  | '>' => pure (.edge .wordEnd)
  | c =>
    if '1' ≤ c && c ≤ '9' && !d.inBrackets then do
      let n := c.toNat - '0'.toNat
      if (← get).closed.contains n then pure (.again n) else throw .badReference
    else
      match if d.escapes then escapedChar? c else none with
      | some e => pure (.char e)
      | none => pure (ofChar d c)

mutual

/-- Parts joined by bars, up to the end or to the parenthesis that closes the group. -/
def readBars (d : Dialect) (inGroup : Bool) : Nat → Reading Regex
  | 0 => throw .openParen
  | fuel + 1 => do
    let r ← readParts d inGroup fuel true
    if ← isNext d '|' then do
      dropOperator d
      let s ← readBars d inGroup fuel
      pure (.alt r s)
    else pure r

/-- Parts that follow each other. With `first`, none has been read. -/
def readParts (d : Dialect) (inGroup : Bool) : Nat → (first : Bool) → Reading Regex
  | 0, _ => throw .openParen
  | fuel + 1, first => do
    let s ← restOf
    if s.isEmpty || (← isNext d '|') then pure .empty
    else if ← isNext d ')' then
      if inGroup then pure .empty else throw .closingParen
    else if s.head? == some '^' && (first || d.extended) then do
      drop 1
      let rest ← readParts d inGroup fuel first
      pure (.seq (.edge .textStart) rest)
    else do
      let part ← readPart d fuel first
      let part ← readRepeats d s.length part
      let rest ← readParts d inGroup fuel false
      pure (match rest with
        | .empty => part
        | rest => .seq part rest)

/-- One part, without repetitions behind it. -/
def readPart (d : Dialect) : Nat → (first : Bool) → Reading Regex
  | 0, _ => throw .openParen
  | fuel + 1, first => do
    let s ← restOf
    if ← isNext d '(' then do
      dropOperator d
      modify fun p => { p with groups := p.groups + 1 }
      let n := (← get).groups
      let r ← readBars d true fuel
      if ← isNext d ')' then do
        dropOperator d
        modify fun p => { p with closed := n :: p.closed }
        pure (.group n r)
      else throw .openParen
    else
      match s with
      | '.' :: _ => do
        drop 1
        pure .any
      | '[' :: r => do
        let negated := r.head? == some '^'
        match readMembers d (r.length + 1) [] true (if negated then r.drop 1 else r) with
        | .ok (members, rest) => do
          modify fun p => { p with rest := rest }
          pure (ofSet d negated members)
        | .error e => throw e
      | ['\\'] => throw .backslashAtEnd
      | '\\' :: c :: _ => do
        drop 2
        if !d.extended && c = '\x7b' then throw .nothingToRepeat
        ofEscape d c
      | '$' :: r =>
        drop 1
        let ends := r.isEmpty || d.extended || r.take 2 == ['\\', ')'] || r.take 2 == ['\\', '|']
        pure (if ends then .edge .textEnd else .char '$')
      | c :: _ => do
        drop 1
        pure (if d.extended && (c = '*' || c = '+' || c = '?') && first then .empty
          else ofChar d c)
      | [] => pure .empty

end

/-- The regular expression that a text gives. -/
def read (d : Dialect) (s : List Char) : Except Fault Regex := do
  let (r, p) ← (readBars d false (4 * s.length + 8)).run ⟨s, 0, []⟩
  if p.rest.isEmpty then pure r else throw .closingParen

/-- Nothing but the characters of a text. -/
def ofText (d : Dialect) (s : List Char) : Regex :=
  s.foldr (fun c r => .seq (ofChar d c) r) .empty

/-- The number of groups of a regular expression. -/
def groupCount : Regex → Nat
  | .seq a b | .alt a b => max a.groupCount b.groupCount
  | .loop r _ _ => r.groupCount
  | .group n r => max n r.groupCount
  | _ => 0

end Regex
end Shell
end Autograder
