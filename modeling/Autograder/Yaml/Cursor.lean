/-
# A place in a YAML text

A cursor is what is left to read together with the position of its first character. YAML knows five
line breaks: a carriage return and a line feed together, either of them alone, the next-line
character, and the line and paragraph separators, which alone keep their identity in a scalar.
-/

namespace Autograder
namespace Yaml

/-- Why a text is not the YAML that was looked for. -/
inductive Fault where
  | badCharacter
  | badIndentation
  | unexpectedEnd
  | unexpectedDocumentMark
  | badEscape
  | badDirective
  | badAnchor
  | badTag
  | badBlockHeader
  | misplacedEntry
  | misplacedKey
  | misplacedValue
  | missingColon
  | misplacedColon
  | unexpectedToken
  | missingDocumentStart
  | unknownTagHandle
  | unknownAnchor
  | severalDocuments
  | tooDeep
  deriving DecidableEq, Repr

/-- A space or a tab. -/
def isBlank (c : Char) : Bool := c == ' ' || c == '\t'

/-- A character that ends a line. -/
def isBreak (c : Char) : Bool :=
  c == '\n' || c == '\r' || c == '\u0085' || c == '\u2028' || c == '\u2029'

/-- A character of names: an ASCII letter or digit, a dash or an underscore. -/
def isNameChar (c : Char) : Bool := c.isAlphanum || c == '-' || c == '_'

/-- The characters that a YAML text may have at all. -/
def isAllowed (c : Char) : Bool :=
  let n := c.toNat
  n == 0x09 || n == 0x0A || n == 0x0D || (0x20 ≤ n && n ≤ 0x7E) || n == 0x85 ||
    (0xA0 ≤ n && n ≤ 0xD7FF) || (0xE000 ≤ n && n ≤ 0xFFFD) || 0x10000 ≤ n

/-- What is left of a text, and where that is: how many bytes of UTF-8 and how many lines come before,
and how many characters of its line. -/
structure Cursor where
  rest : List Char
  index : Nat
  line : Nat
  column : Nat

namespace Cursor

/-- The start of a text. -/
def ofText (s : List Char) : Cursor := ⟨s, 0, 0, 0⟩

/-- The next character. -/
def head? (c : Cursor) : Option Char := c.rest.head?

/-- The next character is the given one. -/
def isAt (c : Cursor) (x : Char) : Bool := c.rest.head? == some x

/-- The character that comes `n` characters later is a blank or a line break, or there is none. -/
def gapAfter (c : Cursor) (n : Nat) : Bool :=
  match c.rest.drop n with
  | [] => true
  | x :: _ => isBlank x || isBreak x

/-- A line break or the end of the text is next. -/
def atLineEnd (c : Cursor) : Bool :=
  match c.rest with
  | [] => true
  | x :: _ => isBreak x

/-- How many bytes characters have. -/
def byteCount (s : List Char) : Nat := s.foldl (fun n x => n + x.utf8Size) 0

/-- After `n` characters of this line. -/
def skip (c : Cursor) (n : Nat) : Cursor :=
  let passed := c.rest.take n
  ⟨c.rest.drop n, c.index + byteCount passed, c.line, c.column + passed.length⟩

/-- After the characters of this line that have a property. -/
def skipWhile (c : Cursor) (p : Char → Bool) : Cursor := c.skip (c.rest.takeWhile p).length

/-- After the rest of this line, whose end is next then. -/
def skipLine (c : Cursor) : Cursor := c.skipWhile fun x => !isBreak x

/-- The line break that is next, as it stands in a scalar, and the start of the next line. Without
a line break nothing happens. -/
def takeBreak (c : Cursor) : List Char × Cursor :=
  match c.rest with
  | '\r' :: '\n' :: r => (['\n'], ⟨r, c.index + 2, c.line + 1, 0⟩)
  | x :: r =>
    if x = '\u2028' || x = '\u2029' then ([x], ⟨r, c.index + x.utf8Size, c.line + 1, 0⟩)
    else if isBreak x then (['\n'], ⟨r, c.index + x.utf8Size, c.line + 1, 0⟩)
    else ([], c)
  | [] => ([], c)

/-- After the line break that is next. -/
def skipBreak (c : Cursor) : Cursor := c.takeBreak.2

/-- A line starts with three of the given characters, and nothing else is attached to them. -/
def atMark (c : Cursor) (x : Char) : Bool :=
  c.column == 0 && c.rest.take 3 == [x, x, x] && c.gapAfter 3

/-- A mark that starts or ends a document is next. -/
def atDocumentMark (c : Cursor) : Bool := c.atMark '-' || c.atMark '.'

end Cursor
end Yaml
end Autograder
