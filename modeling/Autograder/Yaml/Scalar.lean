/-
# Scalars

The text of a scalar in each of its five styles. In a plain or quoted scalar a line break becomes a
space, and further line breaks after it are kept; a folded scalar does the same between lines that
do not start with a blank. Reading a scalar gives its text and the cursor after it.
-/

import Autograder.Yaml.Cursor

namespace Autograder
namespace Yaml

/-- How a scalar is written. -/
inductive Style where
  | plain
  | singleQuoted
  | doubleQuoted
  | literal
  | folded
  deriving DecidableEq, Repr

/-- The blanks and line breaks between two words of a scalar: the blanks of a gap within a line, or
the first line break and the later ones. -/
structure Gap where
  blanks : List Char
  first : List Char
  later : List Char
  broken : Bool

namespace Gap

/-- No gap. -/
def none : Gap := ⟨[], [], [], false⟩

/-- What a first line break and later ones become: the first alone is a space. -/
def folded (first later : List Char) : List Char :=
  if first.head? == some '\n' then (if later.isEmpty then [' '] else later) else first ++ later

/-- What a gap becomes in the text of a scalar. -/
def text (g : Gap) : List Char := if g.broken then folded g.first g.later else g.blanks

end Gap

/-- The gap that a cursor stands at, after one that has begun. After a line break, a tab before the
column `indent` is refused. Each character of the gap takes one of `fuel`. -/
def takeGap (indent : Int) : Nat → Gap → Cursor → Except Fault (Gap × Cursor)
  | 0, g, c => .ok (g, c)
  | fuel + 1, g, c =>
    match c.rest with
    | [] => .ok (g, c)
    | x :: _ =>
      if isBlank x then
        if g.broken then
          if x = '\t' && (c.column : Int) < indent then .error .badIndentation
          else takeGap indent fuel g (c.skip 1)
        else takeGap indent fuel { g with blanks := g.blanks ++ [x] } (c.skip 1)
      else if isBreak x then
        let (b, c) := c.takeBreak
        if g.broken then takeGap indent fuel { g with later := g.later ++ b } c
        else takeGap indent fuel ⟨[], b, [], true⟩ c
      else .ok (g, c)

/-- The characters that end a plain scalar inside brackets. -/
def isFlowIndicator (c : Char) : Bool :=
  c == ',' || c == '[' || c == ']' || c == '\x7b' || c == '\x7d'

/-- The characters of a plain scalar up to a gap or an indicator, in reverse after those of `word`.
Inside brackets a colon right before another indicator is refused. -/
def plainWord (inFlow : Bool) (word : List Char) : List Char → Except Fault (List Char)
  | [] => .ok word
  | x :: r =>
    let gapNext := match r with
      | [] => true
      | y :: _ => isBlank y || isBreak y
    let indicatorNext := match r with
      | [] => false
      | y :: _ => isFlowIndicator y || y == '?'
    if isBlank x || isBreak x then .ok word
    else if inFlow && x == ':' && indicatorNext then .error .misplacedColon
    else if (x == ':' && gapNext) || (inFlow && isFlowIndicator x) then .ok word
    else plainWord inFlow (x :: word) r

/-- What reading a plain scalar gives; `broken` tells that a line break came after it. -/
structure Plain where
  text : List Char
  broken : Bool
  cursor : Cursor

/-- A plain scalar, after the words read so far, in reverse, and the gap behind them. Outside of
brackets its lines are indented to the column `indent` at least. -/
def readPlain (inFlow : Bool) (indent : Int) :
    Nat → List Char → Gap → Cursor → Except Fault Plain
  | 0, done, g, c => .ok ⟨done.reverse, g.broken, c⟩
  | fuel + 1, done, g, c =>
    if c.atDocumentMark || c.isAt '#' then .ok ⟨done.reverse, g.broken, c⟩
    else
      match plainWord inFlow [] c.rest with
      | .error e => .error e
      | .ok word =>
        let c := c.skip word.length
        let done := if word.isEmpty then done else word ++ (g.text.reverse ++ done)
        let g := if word.isEmpty then g else .none
        if !c.gapAfter 0 || c.rest.isEmpty then .ok ⟨done.reverse, g.broken, c⟩
        else
          match takeGap indent (c.rest.length + 1) g c with
          | .error e => .error e
          | .ok (g, c) =>
            if !inFlow && (c.column : Int) < indent then .ok ⟨done.reverse, g.broken, c⟩
            else readPlain inFlow indent fuel done g c

/-- The value of hexadecimal digits. -/
def hexValue? (ds : List Char) : Option Nat :=
  ds.foldl (fun n c =>
    let d : Option Nat :=
      if c.isDigit then some (c.toNat - '0'.toNat)
      else if 'a' ≤ c && c ≤ 'f' then some (c.toNat - 'a'.toNat + 10)
      else if 'A' ≤ c && c ≤ 'F' then some (c.toNat - 'A'.toNat + 10)
      else none
    match n, d with
    | some n, some d => some (n * 16 + d)
    | _, _ => none) (some 0)

/-- The character that a backslash and one more character stand for. -/
def simpleEscape? (c : Char) : Option Char :=
  match c with
  | '0' => some '\x00'
  | 'a' => some '\x07'
  | 'b' => some '\x08'
  | 't' => some '\t'
  | '\t' => some '\t'
  | 'n' => some '\n'
  | 'v' => some '\x0b'
  | 'f' => some '\x0c'
  | 'r' => some '\r'
  | 'e' => some '\x1b'
  | ' ' => some ' '
  | '"' => some '"'
  | '/' => some '/'
  | '\\' => some '\\'
  | 'N' => some '\u0085'
  | '_' => some '\u00a0'
  | 'L' => some '\u2028'
  | 'P' => some '\u2029'
  | _ => none

/-- How many hexadecimal digits follow a backslash and this character. -/
def escapeLength? (c : Char) : Option Nat :=
  match c with
  | 'x' => some 2
  | 'u' => some 4
  | 'U' => some 8
  | _ => none

/-- The character that an escape stands for, after the backslash, and how long the escape is. -/
def readEscape : List Char → Except Fault (Char × Nat)
  | [] => .error .badEscape
  | c :: r =>
    match simpleEscape? c, escapeLength? c with
    | some x, _ => .ok (x, 1)
    | none, none => .error .badEscape
    | none, some n =>
      match hexValue? (r.take n) with
      | none => .error .badEscape
      | some v =>
        if (r.take n).length < n || (0xD800 ≤ v && v ≤ 0xDFFF) || 0x10FFFF < v then
          .error .badEscape
        else .ok (Char.ofNat v, n + 1)

/-- A word of a quoted scalar, in reverse after that of `word`, up to a gap or the closing quote;
`true` tells that an escaped line break ended it. -/
def quotedWord (double : Bool) : Nat → List Char → Cursor → Except Fault (List Char × Bool × Cursor)
  | 0, word, c => .ok (word, false, c)
  | fuel + 1, word, c =>
    match c.rest with
    | [] => .ok (word, false, c)
    | x :: r =>
      if isBlank x || isBreak x then .ok (word, false, c)
      else if !double && x == '\'' then
        if r.head? == some '\'' then quotedWord double fuel ('\'' :: word) (c.skip 2)
        else .ok (word, false, c)
      else if double && x == '"' then .ok (word, false, c)
      else if double && x == '\\' then
        if !r.isEmpty && (c.skip 1).atLineEnd then .ok (word, true, (c.skip 1).skipBreak)
        else
          match readEscape r with
          | .error e => .error e
          | .ok (y, n) => quotedWord double fuel (y :: word) (c.skip (n + 1))
      else quotedWord double fuel (x :: word) (c.skip 1)

/-- A quoted scalar whose opening quote has been read, after the words read so far, in reverse. -/
def readQuoted (double : Bool) : Nat → List Char → Cursor → Except Fault (List Char × Cursor)
  | 0, _, _ => .error .unexpectedEnd
  | fuel + 1, done, c =>
    if c.atDocumentMark then .error .unexpectedDocumentMark
    else if c.rest.isEmpty then .error .unexpectedEnd
    else
      match quotedWord double (c.rest.length + 1) [] c with
      | .error e => .error e
      | .ok (word, escapedBreak, c) =>
        let done := word ++ done
        if c.isAt (if double then '"' else '\'') then .ok (done.reverse, c.skip 1)
        else
          match takeGap (-1) (c.rest.length + 1) { Gap.none with broken := escapedBreak } c with
          | .error e => .error e
          | .ok (g, c) => readQuoted double fuel (g.text.reverse ++ done) c

/-- What happens to the line breaks at the end of a block scalar. -/
inductive Chomp where
  | strip
  | clip
  | keep
  deriving DecidableEq, Repr

/-- A chomping indicator. -/
def chomp? (c : Char) : Option Chomp :=
  if c = '+' then some .keep else if c = '-' then some .strip else none

/-- The header of a block scalar after its first character: the chomping and the indentation, in
either order and both optional. -/
def readHeader (c : Cursor) : Except Fault (Chomp × Option Nat × Cursor) :=
  let indentation (c : Cursor) : Except Fault (Option Nat × Cursor) :=
    match c.rest with
    | x :: _ =>
      if x = '0' then .error .badBlockHeader
      else if x.isDigit then .ok (some (x.toNat - '0'.toNat), c.skip 1)
      else .ok (none, c)
    | [] => .ok (none, c)
  match c.head?.bind chomp? with
  | some k => (indentation (c.skip 1)).map fun (n, c) => (k, n, c)
  | none =>
    match indentation c with
    | .error e => .error e
    | .ok (none, c) => .ok (.clip, none, c)
    | .ok (some n, c) =>
      match c.head?.bind chomp? with
      | some k => .ok (k, some n, c.skip 1)
      | none => .ok (.clip, some n, c)

/-- The blank lines before a line of a block scalar, and the widest indentation among them. With an
unknown indentation all leading spaces are skipped. -/
def blankLines (indent : Option Nat) :
    Nat → Nat → List Char → Cursor → Except Fault (Nat × List Char × Cursor)
  | 0, widest, breaks, c => .ok (widest, breaks, c)
  | fuel + 1, widest, breaks, c =>
    let room := match indent with
      | none => c.rest.length
      | some n => n - c.column
    let c := c.skip ((c.rest.take room).takeWhile (· == ' ')).length
    let widest := max widest c.column
    let before := match indent with
      | none => true
      | some n => c.column < n
    if before && c.isAt '\t' then .error .badIndentation
    else if c.atLineEnd && !c.rest.isEmpty then
      let (b, c) := c.takeBreak
      blankLines indent fuel widest (breaks ++ b) c
    else .ok (widest, breaks, c)

/-- The lines of a block scalar, after the text read so far, in reverse. `first` is the break that
ended the last line, `later` those of the blank lines behind it, and `blank` tells that the last
line started with a blank. -/
def blockLines (literal : Bool) (indent : Nat) :
    Nat → List Char → List Char → List Char → Bool → Cursor →
      Except Fault (List Char × List Char × List Char × Cursor)
  | 0, done, first, later, _, c => .ok (done, first, later, c)
  | fuel + 1, done, first, later, blank, c =>
    if c.column ≠ indent || c.rest.isEmpty then .ok (done, first, later, c)
    else
      let blankNow := match c.rest with
        | x :: _ => isBlank x
        | [] => false
      let joint :=
        if !literal && first.head? == some '\n' && !blank && !blankNow then
          (if later.isEmpty then [' '] else later)
        else first ++ later
      let words := c.rest.takeWhile fun x => !isBreak x
      let c := c.skipLine
      let (b, c) := c.takeBreak
      match blankLines (some indent) (c.rest.length + 1) 0 [] c with
      | .error e => .error e
      | .ok (_, later, c) =>
        blockLines literal indent fuel (words.reverse ++ (joint.reverse ++ done)) b later blankNow c

/-- A block scalar after its first character. `parent` is the indentation of the collection that
the scalar stands in. -/
def readBlock (literal : Bool) (parent : Int) (c : Cursor) : Except Fault (List Char × Cursor) :=
  match readHeader c with
  | .error e => .error e
  | .ok (chomp, increment, c) =>
    let c := c.skipWhile isBlank
    let c := if c.isAt '#' then c.skipLine else c
    if !c.atLineEnd then .error .badBlockHeader
    else
      let c := c.skipBreak
      let given := increment.map fun n => if 0 ≤ parent then parent.toNat + n else n
      match blankLines given (c.rest.length + 1) 0 [] c with
      | .error e => .error e
      | .ok (widest, breaks, c) =>
        let indent := given.getD (max (max widest (parent + 1).toNat) 1)
        match blockLines literal indent (c.rest.length + 1) [] [] breaks false c with
        | .error e => .error e
        | .ok (done, first, later, c) =>
          let ending := match chomp with
            | .strip => []
            | .clip => first
            | .keep => first ++ later
          .ok (done.reverse ++ ending, c)

end Yaml
end Autograder
