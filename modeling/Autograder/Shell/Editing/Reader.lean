/-
# Reading editing programs

A program is read character by character, and a fault comes with the number of characters that were
read.
-/

import Autograder.Shell.Editing.Program
import Autograder.Shell.Token

namespace Autograder
namespace Shell
namespace Editing

/-- What is wrong with a program, and after how many characters. -/
structure Fault where
  place : Nat
  message : String

/-- What is left of a program, how much was read, the steps so far in reverse, and where the blocks
that are open have begun. -/
structure Progress where
  rest : List Char
  place : Nat
  steps : List Step
  opened : List Nat

/-- A step of the reading of a program. -/
abbrev Reading := StateT Progress (Except Fault)

/-- A failed step. -/
def fail {α : Type} (message : String) : Reading α := fun p => .error ⟨p.place, message⟩

/-- The next character. -/
def head? : Reading (Option Char) := do pure (← get).rest.head?

/-- Passes over the next character. -/
def skip : Reading Unit :=
  modify fun p =>
    { p with rest := p.rest.drop 1, place := if p.rest.isEmpty then p.place else p.place + 1 }

/-- The next characters that have a property. -/
def takeWhile (f : Char → Bool) : Reading (List Char) := do
  let taken := (← get).rest.takeWhile f
  modify fun p =>
    { p with rest := p.rest.drop taken.length, place := p.place + taken.length }
  pure taken

/-- Passes over blanks. -/
def skipBlanks : Reading Unit := do
  let _ ← takeWhile isBlank

/-- Passes over blanks, line feeds and semicolons. -/
def skipBreaks : Reading Unit := do
  let _ ← takeWhile fun c => isBlank c || c == '\n' || c == ';'

/-- The characters up to one that ends them, which is passed over. In a regular expression it has no
meaning between brackets. Line feeds have to be written with a backslash. -/
def takeUntil (ending : Char) (regex : Bool) (message : String) : Nat → List Char → (inSet : Bool) →
    Reading (List Char)
  | 0, _, _ => fail message
  | fuel + 1, done, inSet => do
    let s := (← get).rest
    match s with
    | [] => fail message
    | '\\' :: c :: _ => do
      if inSet then do
        skip
        takeUntil ending regex message fuel ('\\' :: done) true
      else do
        skip
        skip
        let quoted := if c = ending then
            if regex && ".*[]^$+?()\x7b\x7d|".toList.contains c && c != '|' then ['\\', c]
            else if !regex && c = '&' then ['\\', c] else [c]
          else ['\\', c]
        takeUntil ending regex message fuel (quoted.reverse ++ done) false
    | c :: r =>
      if inSet then do
        skip
        takeUntil ending regex message fuel (c :: done) (c != ']')
      else if c = ending then do
        skip
        pure done.reverse
      else if regex && c = '[' then do
        let start := match r with
          | '^' :: ']' :: _ => 3
          | '^' :: _ | ']' :: _ => 2
          | _ => 1
        let taken := s.take start
        modify fun p => { p with rest := p.rest.drop start, place := p.place + start }
        takeUntil ending regex message fuel (taken.reverse ++ done) true
      else do
        skip
        takeUntil ending regex message fuel (c :: done) false

/-- A regular expression; an empty one stands for the last that was used. -/
def regexOf (extended ignoreCase : Bool) (s : List Char) : Reading (Option Regex) := do
  if s.isEmpty then pure none
  else
    match Regex.read ⟨extended, ignoreCase, true, false⟩ s with
    | .ok r => pure (some r)
    | .error e => fail e.message

/-- A number, if there is one next. -/
def number? : Reading (Option Nat) := do
  let ds ← takeWhile Char.isDigit
  pure (if ds.isEmpty then none else some (Nat.ofDigitChars 10 ds 0))

/-- An address, if there is one next. -/
def address? (extended : Bool) : Reading (Option Address) := do
  let regex (ending : Char) : Reading (Option Address) := do
    let s ← takeUntil ending true "unterminated address regex" ((← get).rest.length + 1) [] false
    let flags ← takeWhile fun c => c == 'I' || c == 'M'
    pure (some (.regex (← regexOf extended (flags.contains 'I') s)))
  match ← head? with
  | some '$' => do
    skip
    pure (some .last)
  | some '/' => do
    skip
    regex '/'
  | some '\\' => do
    skip
    match ← head? with
    | some c => do
      skip
      regex c
    | none => fail "unterminated address regex"
  | _ => do
    match ← number? with
    | none => pure none
    | some n => do
      skipBlanks
      if (← head?) == some '~' then do
        skip
        pure (some (.step n ((← number?).getD 0)))
      else pure (some (.line n))

/-- The end of a range of lines. -/
def addressEnd (extended : Bool) : Reading AddressEnd := do
  match ← head? with
  | some '+' => do
    skip
    pure (.after ((← number?).getD 0))
  | some '~' => do
    skip
    pure (.multiple ((← number?).getD 0))
  | _ => do
    match ← address? extended with
    | some a => pure (.address a)
    | none => do
      fail "unexpected `,'"

/-- The pieces of what stands instead of a match. The text of `done` comes before, in reverse. -/
def piecesFrom (done : List Char) : List Char → List Piece
  | [] => if done.isEmpty then [] else [.text done.reverse]
  | '\\' :: c :: r =>
    let before : List Piece := if done.isEmpty then [] else [.text done.reverse]
    if c.isDigit then before ++ .group (c.toNat - '0'.toNat) :: piecesFrom [] r
    else
      match c with
      | 'U' => before ++ .caseOf (some true) :: piecesFrom [] r
      | 'L' => before ++ .caseOf (some false) :: piecesFrom [] r
      | 'E' => before ++ .caseOf none :: piecesFrom [] r
      | 'u' => before ++ .nextCase true :: piecesFrom [] r
      | 'l' => before ++ .nextCase false :: piecesFrom [] r
      | c => piecesFrom ((Regex.escapedChar? c).getD c :: done) r
  | '&' :: r =>
    (if done.isEmpty then [] else [.text done.reverse]) ++ .group 0 :: piecesFrom [] r
  | c :: r => piecesFrom (c :: done) r

/-- The largest number of a group in some pieces. -/
def largestGroup (ps : List Piece) : Nat :=
  ps.foldl (fun n p =>
    match p with
    | .group m => max n m
    | _ => n) 0

/-- The name of a file, which goes to the end of the line. -/
def fileName : Reading (List Char) := do
  skipBlanks
  let name ← takeWhile (· != '\n')
  if name.isEmpty then fail "missing filename in r/R/w/W commands"
  pure name

/-- What stands behind a replacement: letters and a number. -/
def readFlags : Nat → Substitution → (ignoreCase numbered : Bool) → Reading (Substitution × Bool)
  | 0, s, i, _ => pure (s, i)
  | fuel + 1, s, i, numbered => do
    match ← head? with
    | some 'g' => do
      skip
      if s.all then fail "multiple `g' options to `s' command"
      readFlags fuel { s with all := true } i numbered
    | some 'p' => do
      skip
      if s.shows then fail "multiple `p' options to `s' command"
      readFlags fuel { s with shows := true } i numbered
    | some 'i' | some 'I' => do
      skip
      readFlags fuel s true numbered
    | some 'm' | some 'M' => do
      skip
      readFlags fuel s i numbered
    | some 'w' => do
      skip
      let path ← fileName
      pure ({ s with file := some path }, i)
    | some c =>
      if c.isDigit then do
        let n := (← number?).getD 0
        if numbered then fail "multiple number options to `s' command"
        if n = 0 then fail "number option to `s' command may not be zero"
        readFlags fuel { s with first := n } i true
      else if c = '\x7d' || c = '#' || c = ';' || c = '\n' || isBlank c then pure (s, i)
      else do
        skip
        fail "unknown option to `s'"
    | none => pure (s, i)

/-- A replacement, behind its letter. -/
def readSubstitution (extended : Bool) : Reading Action := do
  let message := "unterminated `s' command"
  match ← head? with
  | none => fail message
  | some ending => do
    skip
    let fuel := (← get).rest.length + 1
    let pattern ← takeUntil ending true message fuel [] false
    let text ← takeUntil ending false message fuel [] false
    let pieces := piecesFrom [] text
    let (s, ignoreCase) ← readFlags fuel ⟨none, pieces, 1, false, false, none⟩ false false
    let regex ← regexOf extended ignoreCase pattern
    match regex with
    | some r =>
      if r.groupCount < largestGroup pieces then
        fail ("invalid reference \\" ++ toString (largestGroup pieces) ++ " on `s' command's RHS")
    | none => pure ()
    pure (.substitute { s with regex := regex })

/-- Text in which a backslash quotes a character. -/
def unquoted : List Char → List Char
  | '\\' :: c :: r => (if c = '\\' then c else (Regex.escapedChar? c).getD c) :: unquoted r
  | c :: r => c :: unquoted r
  | [] => []

/-- A table of characters and what replaces them, behind its letter. -/
def readTable : Reading Action := do
  let message := "unterminated `y' command"
  match ← head? with
  | none => fail message
  | some ending => do
    skip
    let fuel := (← get).rest.length + 1
    let a := unquoted (← takeUntil ending false message fuel [] false)
    let b := unquoted (← takeUntil ending false message fuel [] false)
    if a.length != b.length then fail "strings for `y' command are different lengths"
    pure (.replaceChars (a.zip b))

/-- A text up to a line feed that no backslash stands in front of. -/
def textFrom : Nat → List Char → Reading (List Char)
  | 0, done => pure done.reverse
  | fuel + 1, done => do
    match (← get).rest with
    | [] => pure done.reverse
    | '\n' :: _ => pure done.reverse
    | '\\' :: c :: _ => do
      skip
      skip
      textFrom fuel ((if c = '\n' then c else (Regex.escapedChar? c).getD c) :: done)
    | c :: _ => do
      skip
      textFrom fuel (c :: done)

/-- The text of a step that adds lines. It may stand behind a backslash and a line feed. -/
def readText : Reading (List Char) := do
  skipBlanks
  match (← get).rest with
  | [] => fail "expected \\ after `a', `c' or `i'"
  | '\\' :: _ => do
    skip
    let blanks ← takeWhile isBlank
    if (← head?) == some '\n' then do
      skip
      let text ← textFrom ((← get).rest.length + 1) []
      pure (text ++ ['\n'])
    else do
      let text ← textFrom ((← get).rest.length + 1) []
      pure (blanks ++ text ++ ['\n'])
  | _ => do
    let text ← textFrom ((← get).rest.length + 1) []
    pure (text ++ ['\n'])

/-- What follows a step has to end it. -/
def endStep : Reading Unit := do
  skipBlanks
  match ← head? with
  | none | some '\x7d' | some '#' => pure ()
  | some c => do
    skip
    unless c = ';' || c = '\n' do fail "extra characters after command"

/-- The name of a label. -/
def labelName : Reading (List Char) := do
  skipBlanks
  takeWhile fun c => !isBlank c && c != '\n' && c != ';'

/-- The name of a label that a step leads to. -/
def targetName : Reading (List Char) := do
  skipBlanks
  takeWhile fun c => !isBlank c && c != '\n' && c != ';' && c != '\x7d'

/-- What the step of a letter does, behind that letter. -/
def readAction (extended : Bool) (c : Char) : Reading Action := do
  let plain (a : Action) : Reading Action := do
    endStep
    pure a
  match c with
  | 's' => do
    let a ← readSubstitution extended
    endStep
    pure a
  | 'y' => do
    let a ← readTable
    endStep
    pure a
  | 'd' => plain .delete
  | 'D' => plain .deleteFirst
  | 'p' => plain .show
  | 'P' => plain .showFirst
  | '=' => plain .showNumber
  | 'l' => plain .showVisibly
  | 'F' => plain .showName
  | 'n' => plain .next
  | 'N' => plain .addNext
  | 'h' => plain .hold
  | 'H' => plain .addToHold
  | 'g' => plain .fetch
  | 'G' => plain .addFetched
  | 'x' => plain .exchange
  | 'z' => plain .empty
  | 'a' => do pure (.append (← readText))
  | 'i' => do pure (.insert (← readText))
  | 'c' => do pure (.change (← readText))
  | 'r' | 'R' => do pure (.appendFile (← fileName))
  | 'w' => do pure (.writeFile (← fileName))
  | 'W' => do pure (.writeFirst (← fileName))
  | 'q' | 'Q' => do
    skipBlanks
    let status := (← number?).getD 0
    plain (.quit (c == 'q') status)
  | 'b' | 't' | 'T' => do
    let name ← targetName
    plain (.jump name (if c = 'b' then none else some (c == 't')))
  | _ => fail ("unknown command: `" ++ String.ofList [c] ++ "'")

/-- Adds a step. -/
def push (s : Step) : Reading Unit := modify fun p => { p with steps := s :: p.steps }

/-- Reads one step. -/
def readStep (extended : Bool) : Reading Unit := do
  let first ← address? extended
  if first.isSome then skipBlanks
  let last ←
    if first.isSome && (← head?) == some ',' then do
      skip
      skipBlanks
      pure (some (← addressEnd extended))
    else pure none
  match first, last with
  | some (.line 0), some (.address (.regex _)) => pure ()
  | some (.line 0), _ => fail "invalid usage of line address 0"
  | _, _ => pure ()
  skipBlanks
  let negated := (← head?) == some '!'
  if negated then
    skip
    skipBlanks
    if (← head?) == some '!' then do
      skip
      fail "multiple `!'s"
  match ← head? with
  | none => fail "missing command"
  | some c => do
    skip
    match c with
    | '\x7b' => do
      let place := (← get).steps.length
      push ⟨first, last, negated, .block 0⟩
      modify fun p => { p with opened := place :: p.opened }
    | '\x7d' =>
      if first.isSome then fail "unexpected `\x7d'"
      match (← get).opened with
      | [] => fail "unexpected `\x7d'"
      | place :: opened => do
        let close (i : Nat) (s : Step) (count : Nat) : Step :=
          if count - 1 - i = place then { s with action := .block count } else s
        modify fun p =>
          { p with
            opened := opened
            steps := p.steps.zipIdx.map fun (s, i) => close i s p.steps.length }
        endStep
    | ':' => do
      if first.isSome then fail ": doesn't want any addresses"
      let name ← labelName
      if name.isEmpty then fail "\":\" lacks a label"
      push ⟨none, none, false, .label name⟩
    | '\n' | ';' => fail "missing command"
    | c =>
      if last.isSome && (c = 'q' || c = 'Q' || c = 'F') then
        fail "command only uses one address"
      push ⟨first, last, negated, ← readAction extended c⟩

/-- Reads steps up to the end of the program. -/
def readSteps (extended : Bool) : Nat → Reading Unit
  | 0 => pure ()
  | fuel + 1 => do
    skipBreaks
    match ← head? with
    | none => pure ()
    | some '#' => do
      let _ ← takeWhile (· != '\n')
      readSteps extended fuel
    | some _ => do
      readStep extended
      readSteps extended fuel

/-- The program that some texts give, one after the other; a fault comes with the number of the text
that it is in. -/
def readAll (extended : Bool) (steps : List Step) (opened : List Nat) :
    (count : Nat) → List (List Char) → Except (Nat × Fault) Program
  | count, [] =>
    if opened.isEmpty then .ok steps.reverse.toArray
    else .error (count, ⟨0, "unmatched `\x7b'"⟩)
  | count, s :: rest =>
    match (readSteps extended (s.length + 1)).run ⟨s, 0, steps, opened⟩ with
    | .ok (_, p) => readAll extended p.steps p.opened (count + 1) rest
    | .error e => .error (count + 1, e)

end Editing
end Shell
end Autograder
