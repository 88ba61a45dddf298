/-
# YAML tokens

A YAML text as a list of tokens. Indentation becomes explicit here: a collection outside of brackets
gets a token where its first item stands and one where the text moves left of it. A key is known as
a key only when its colon comes, so the place of a token that could be a key is remembered until
then, and the key token is put there afterwards.
-/

import Autograder.Text.Lossy
import Autograder.Yaml.Scalar

namespace Autograder
namespace Yaml

/-- A token of a YAML text. -/
inductive Token where
  | version (major minor : Nat)
  | tagHandle (handle uri : String)
  | documentStart
  | documentEnd
  | blockSequenceStart
  | blockMappingStart
  | blockEnd
  | flowSequenceStart
  | flowSequenceEnd
  | flowMappingStart
  | flowMappingEnd
  | blockEntry
  | flowEntry
  | key
  | value
  | alias (name : String)
  | anchor (name : String)
  | tag (handle rest : String)
  | scalar (style : Style) (text : String)
  deriving DecidableEq, Repr

/-- A token that could turn out to be a key: how many tokens come before it, where it starts, and
whether it has to be a key because of its column. -/
structure KeyCandidate where
  required : Bool
  before : Nat
  index : Nat
  line : Nat
  column : Nat

/-- The reading of tokens: the cursor, the indentation of the collections that are open outside of
brackets, whether a key may start here, the key candidate of each level of brackets, the innermost
first, and the tokens so far. -/
structure Lexer where
  cursor : Cursor
  indent : Int
  outer : List Int
  keyAllowed : Bool
  candidates : List (Option KeyCandidate)
  tokens : Array Token

namespace Lexer

/-- Before the first token. -/
def ofText (s : List Char) : Lexer := ⟨.ofText s, -1, [], true, [none], #[]⟩

/-- Inside brackets. -/
def inFlow (l : Lexer) : Bool := 1 < l.candidates.length

/-- With one more token, and the cursor after it. -/
def emit (l : Lexer) (t : Token) (c : Cursor) : Lexer :=
  { l with tokens := l.tokens.push t, cursor := c }

/-- Forgets the key candidate of this level, which must not have had to be a key. -/
def dropCandidate (l : Lexer) : Except Fault Lexer :=
  match l.candidates with
  | some k :: ks =>
    if k.required then .error .missingColon else .ok { l with candidates := none :: ks }
  | _ => .ok l

/-- Remembers the next token as a key candidate, if a key may start here. -/
def saveCandidate (l : Lexer) : Except Fault Lexer :=
  if l.keyAllowed then
    (l.dropCandidate).map fun l =>
      let c := l.cursor
      let k : KeyCandidate :=
        ⟨!l.inFlow && l.indent == (c.column : Int), l.tokens.size, c.index, c.line, c.column⟩
      { l with candidates := some k :: l.candidates.drop 1 }
  else .ok l

/-- A key and its colon are on one line and no more than 1024 bytes apart. What is further back
than that is no candidate any more. -/
def keepFresh (c : Cursor) : Option KeyCandidate → Except Fault (Option KeyCandidate)
  | none => .ok none
  | some k =>
    if k.line < c.line || k.index + 1024 < c.index then
      if k.required then .error .missingColon else .ok none
    else .ok (some k)

/-- Drops the key candidates that are too far back. -/
def dropStale (l : Lexer) : Except Fault Lexer :=
  (l.candidates.mapM (keepFresh l.cursor)).map fun ks => { l with candidates := ks }

/-- Opens a collection at a column that is right of the current one: its token goes to the given
place among the tokens, or to the end. -/
def openBlock (l : Lexer) (column : Nat) (place : Option Nat) (t : Token) : Lexer :=
  if l.inFlow || (column : Int) ≤ l.indent then l
  else
    { l with
      outer := l.indent :: l.outer
      indent := column
      tokens := l.tokens.insertIdxIfInBounds (place.getD l.tokens.size) t }

/-- Closes collections whose indentation is right of a column. -/
def closeFrom (column : Int) : List Int → Int → Array Token → List Int × Int × Array Token
  | [], indent, tokens => ([], indent, tokens)
  | i :: is, indent, tokens =>
    if column < indent then closeFrom column is i (tokens.push .blockEnd)
    else (i :: is, indent, tokens)

/-- Closes the collections that the text has moved left of. -/
def closeBlocks (l : Lexer) (column : Int) : Lexer :=
  if l.inFlow then l
  else
    let (outer, indent, tokens) := closeFrom column l.outer l.indent l.tokens
    { l with outer := outer, indent := indent, tokens := tokens }

/-- Passes over blanks, comments and line breaks. Outside of brackets a key may start on a new line,
and no tab may stand where a key may start. A mark of byte order may come first on a line, and counts as
a character of it. -/
def skipToToken : Nat → Lexer → Lexer
  | 0, l => l
  | fuel + 1, l =>
    let c := l.cursor
    let c := if c.column = 0 && c.isAt '\uFEFF' then c.skip 1 else c
    let c := c.skipWhile fun x => x == ' ' || (x == '\t' && (l.inFlow || !l.keyAllowed))
    let c := if c.isAt '#' then c.skipLine else c
    if c.atLineEnd && !c.rest.isEmpty then
      skipToToken fuel { l with cursor := c.skipBreak, keyAllowed := l.keyAllowed || !l.inFlow }
    else { l with cursor := c }

/-- Starts over at the left margin, where no key may be left waiting for its colon. -/
def reset (l : Lexer) : Except Fault Lexer :=
  ((l.closeBlocks (-1)).dropCandidate).map fun l => { l with keyAllowed := false }

/-- A run of digits, at most nine. -/
def readVersionNumber (c : Cursor) : Except Fault (Nat × Cursor) :=
  let ds := c.rest.takeWhile Char.isDigit
  if ds.isEmpty || 9 < ds.length then .error .badDirective
  else .ok (Nat.ofDigitChars 10 ds 0, c.skip ds.length)

/-- A tag handle: an exclamation mark, or a name between two of them. In a directive it has to be
one of these; before a tag the second mark may be missing. -/
def readHandle (inDirective : Bool) (c : Cursor) : Except Fault (List Char × Cursor) :=
  if !c.isAt '!' then .error .badTag
  else
    let name := (c.skip 1).rest.takeWhile isNameChar
    let after := c.skip (1 + name.length)
    if after.isAt '!' then .ok ('!' :: (name ++ ['!']), after.skip 1)
    else if inDirective && !name.isEmpty then .error .badTag
    else .ok ('!' :: name, after)

/-- The characters of a tag besides escapes; commas and square brackets only where nothing else can
be meant. -/
def isTagChar (anywhere : Bool) (c : Char) : Bool :=
  isNameChar c || ";/?:@&=+$.!~*'()".toList.contains c ||
    (anywhere && (c == ',' || c == '[' || c == ']'))

/-- How many bytes a character has that starts with the given one. -/
def bytesFrom? (b : Nat) : Option Nat :=
  if b < 0x80 then some 1
  else if b < 0xC0 then none
  else if b < 0xE0 then some 2
  else if b < 0xF0 then some 3
  else if b < 0xF8 then some 4
  else none

/-- How many bytes of a character come after the escaped byte `b`, of which `due` are wanted. -/
def stillDue? (due b : Nat) : Option Nat :=
  if due = 0 then (bytesFrom? b).map (· - 1)
  else if 0x80 ≤ b && b < 0xC0 then some (due - 1)
  else none

/-- The bytes of the rest of a tag and how many characters they are written in, after the bytes of
`done`, which stand in reverse. A character may be escaped byte by byte, and then `due` more bytes of
it are wanted. -/
def readTagBytes (anywhere : Bool) (done : List UInt8) (due count : Nat) :
    List Char → Except Fault (List UInt8 × Nat)
  | '%' :: a :: b :: r =>
    match hexValue? [a, b] with
    | some n =>
      match stillDue? due n with
      | some due => readTagBytes anywhere (n.toUInt8 :: done) due (count + 3) r
      | none => .error .badTag
    | none => .error .badTag
  | c :: r =>
    if c = '%' || due ≠ 0 then .error .badTag
    else if isTagChar anywhere c then
      readTagBytes anywhere (c.toNat.toUInt8 :: done) 0 (count + 1) r
    else .ok (done.reverse, count)
  | [] => if due ≠ 0 then .error .badTag else .ok (done.reverse, count)

/-- The rest of a tag, which must not be empty together with what its handle gives it. A zero byte
ends its text. -/
def readTagRest (anywhere : Bool) (head : List Char) (c : Cursor) :
    Except Fault (List Char × Cursor) :=
  match readTagBytes anywhere [] 0 0 c.rest with
  | .error e => .error e
  | .ok (bytes, count) =>
    if head.isEmpty && count = 0 then .error .badTag
    else
      let rest := (Text.lossy (bytes.takeWhile (· ≠ 0))).toList
      .ok (head.drop 1 ++ rest, c.skip count)

/-- A directive, after its percent sign. -/
def readDirective (c : Cursor) : Except Fault (Token × Cursor) := do
  let name := c.rest.takeWhile isNameChar
  let c := c.skip name.length
  if name.isEmpty || !c.gapAfter 0 then .error .badDirective
  let c := c.skipWhile isBlank
  let (t, c) ←
    if name = "YAML".toList then do
      let (major, c) ← readVersionNumber c
      if !c.isAt '.' then .error .badDirective
      let (minor, c) ← readVersionNumber (c.skip 1)
      pure (Token.version major minor, c)
    else if name = "TAG".toList then do
      let (handle, c) ← readHandle true c
      if !(c.head?.any isBlank) then .error .badDirective
      let (uri, c) ← readTagRest true [] (c.skipWhile isBlank)
      if !c.gapAfter 0 then .error .badDirective
      pure (Token.tagHandle (String.ofList handle) (String.ofList uri), c)
    else .error .badDirective
  let c := c.skipWhile isBlank
  let c := if c.isAt '#' then c.skipLine else c
  if c.atLineEnd then .ok (t, c.skipBreak) else .error .badDirective

/-- The name of an anchor or alias, after its first character. -/
def readName (c : Cursor) : Except Fault (String × Cursor) :=
  let name := c.rest.takeWhile isNameChar
  let c := c.skip name.length
  let ended := c.gapAfter 0 || c.head?.any fun x => "?:,]\x7d%@\x60".toList.contains x
  if name.isEmpty || !ended then .error .badAnchor else .ok (String.ofList name, c)

/-- A tag. -/
def readTag (inFlow : Bool) (c : Cursor) : Except Fault (Token × Cursor) := do
  let (t, c) ←
    if (c.skip 1).isAt '<' then do
      let (rest, c) ← readTagRest true [] (c.skip 2)
      if !c.isAt '>' then .error .badTag
      pure (Token.tag "" (String.ofList rest), c.skip 1)
    else do
      let (handle, c) ← readHandle false c
      if 1 < handle.length && handle.getLast? == some '!' then
        let (rest, c) ← readTagRest false [] c
        pure (Token.tag (String.ofList handle) (String.ofList rest), c)
      else
        let (rest, c) ← readTagRest false handle c
        if rest.isEmpty then pure (Token.tag "" "!", c)
        else pure (Token.tag "!" (String.ofList rest), c)
  if c.gapAfter 0 || (inFlow && c.isAt ',') then .ok (t, c) else .error .badTag

/-- The start of a bracketed collection. -/
def openFlow (l : Lexer) (t : Token) : Except Fault Lexer :=
  l.saveCandidate.map fun l =>
    { l.emit t (l.cursor.skip 1) with candidates := none :: l.candidates, keyAllowed := true }

/-- The end of a bracketed collection. -/
def closeFlow (l : Lexer) (t : Token) : Except Fault Lexer :=
  l.dropCandidate.map fun l =>
    { l.emit t (l.cursor.skip 1) with
      candidates := if l.inFlow then l.candidates.drop 1 else l.candidates
      keyAllowed := false }

/-- A comma between brackets. -/
def flowEntry (l : Lexer) : Except Fault Lexer :=
  l.dropCandidate.map fun l => { l.emit .flowEntry (l.cursor.skip 1) with keyAllowed := true }

/-- The dash before an item. -/
def blockEntry (l : Lexer) : Except Fault Lexer :=
  if !l.inFlow && !l.keyAllowed then .error .misplacedEntry
  else
    ((l.openBlock l.cursor.column none .blockSequenceStart).dropCandidate).map fun l =>
      { l.emit .blockEntry (l.cursor.skip 1) with keyAllowed := true }

/-- The question mark before a key. -/
def explicitKey (l : Lexer) : Except Fault Lexer :=
  if !l.inFlow && !l.keyAllowed then .error .misplacedKey
  else
    ((l.openBlock l.cursor.column none .blockMappingStart).dropCandidate).map fun l =>
      { l.emit .key (l.cursor.skip 1) with keyAllowed := !l.inFlow }

/-- The colon before a value: it makes the key candidate a key. -/
def value (l : Lexer) : Except Fault Lexer :=
  match l.candidates with
  | some k :: ks =>
    let l := { l with
      tokens := l.tokens.insertIdxIfInBounds k.before .key
      candidates := none :: ks }
    let l := l.openBlock k.column (some k.before) .blockMappingStart
    .ok { l.emit .value (l.cursor.skip 1) with keyAllowed := false }
  | _ =>
    if l.inFlow then .ok { l.emit .value (l.cursor.skip 1) with keyAllowed := false }
    else if !l.keyAllowed then .error .misplacedValue
    else
      let l := l.openBlock l.cursor.column none .blockMappingStart
      .ok { l.emit .value (l.cursor.skip 1) with keyAllowed := true }

/-- An anchor, an alias or a tag. -/
def property (l : Lexer) (read : Cursor → Except Fault (Token × Cursor)) : Except Fault Lexer := do
  let l ← l.saveCandidate
  let (t, c) ← read l.cursor
  pure { l.emit t c with keyAllowed := false }

/-- A block scalar. -/
def blockScalar (l : Lexer) (style : Style) : Except Fault Lexer := do
  let l ← l.dropCandidate
  let (text, c) ← readBlock (style == .literal) l.indent (l.cursor.skip 1)
  pure { l.emit (.scalar style (String.ofList text)) c with keyAllowed := true }

/-- A quoted scalar. -/
def quotedScalar (l : Lexer) (style : Style) : Except Fault Lexer := do
  let l ← l.saveCandidate
  let c := l.cursor.skip 1
  let (text, c) ← readQuoted (style == .doubleQuoted) (c.rest.length + 1) [] c
  pure { l.emit (.scalar style (String.ofList text)) c with keyAllowed := false }

/-- A plain scalar. After a line break a key may start. -/
def plainScalar (l : Lexer) : Except Fault Lexer := do
  let l ← l.saveCandidate
  let c := l.cursor
  let p ← readPlain l.inFlow (l.indent + 1) (c.rest.length + 1) [] .none c
  pure { l.emit (.scalar .plain (String.ofList p.text)) p.cursor with keyAllowed := p.broken }

/-- A character that a plain scalar cannot start with unless something is attached to it. -/
def isIndicator (c : Char) : Bool := "-?:,[]\x7b\x7d#&*!|>'\"%@\x60".toList.contains c

/-- A plain scalar may start here. -/
def plainStarts (l : Lexer) (x : Char) : Bool :=
  !(isBlank x || isBreak x || isIndicator x) ||
    (x == '-' && !((l.cursor.skip 1).head?.any isBlank)) ||
    (!l.inFlow && (x == '?' || x == ':') && !l.cursor.gapAfter 1)

/-- The token that starts with the character `x`. -/
def readToken (l : Lexer) (x : Char) : Except Fault Lexer :=
  let c := l.cursor
  if c.column = 0 && x = '%' then do
    let l ← l.reset
    let (t, c) ← readDirective (c.skip 1)
    pure (l.emit t c)
  else if c.atMark '-' then l.reset.map fun l => l.emit .documentStart (c.skip 3)
  else if c.atMark '.' then l.reset.map fun l => l.emit .documentEnd (c.skip 3)
  else if x = '[' then l.openFlow .flowSequenceStart
  else if x = '\x7b' then l.openFlow .flowMappingStart
  else if x = ']' then l.closeFlow .flowSequenceEnd
  else if x = '\x7d' then l.closeFlow .flowMappingEnd
  else if x = ',' then l.flowEntry
  else if x = '-' && c.gapAfter 1 then l.blockEntry
  else if x = '?' && (l.inFlow || c.gapAfter 1) then l.explicitKey
  else if x = ':' && (l.inFlow || c.gapAfter 1) then l.value
  else if x = '*' then
    l.property fun c => (readName (c.skip 1)).map fun (name, c) => (.alias name, c)
  else if x = '&' then
    l.property fun c => (readName (c.skip 1)).map fun (name, c) => (.anchor name, c)
  else if x = '!' then l.property (readTag l.inFlow)
  else if x = '|' && !l.inFlow then l.blockScalar .literal
  else if x = '>' && !l.inFlow then l.blockScalar .folded
  else if x = '\'' then l.quotedScalar .singleQuoted
  else if x = '"' then l.quotedScalar .doubleQuoted
  else if l.plainStarts x then l.plainScalar
  else .error .badCharacter

/-- Closes everything that is open at the end of the text. -/
def finish (l : Lexer) : Except Fault (List Token) := l.reset.map fun l => l.tokens.toList

/-- The tokens of the rest of the text. Each token takes one of `fuel`. -/
def run : Nat → Lexer → Except Fault (List Token)
  | 0, l => l.finish
  | fuel + 1, l => do
    let l ← (skipToToken (l.cursor.rest.length + 1) l).dropStale
    let l := l.closeBlocks l.cursor.column
    match l.cursor.rest with
    | [] => l.finish
    | x :: _ => run fuel (← l.readToken x)

end Lexer

/-- The tokens of a text. Every token has a character of its own, so the length of the text bounds
their number. -/
def tokens (text : String) : Except Fault (List Token) :=
  let s := text.toList
  if s.all isAllowed then (Lexer.ofText s).run (s.length + 1) else .error .badCharacter

end Yaml
end Autograder
