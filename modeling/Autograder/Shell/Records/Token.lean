/-
# Tokens of programs on records

Words, numbers, texts, regular expressions and operators. A slash begins a regular expression where
no operand stands in front of it. A line feed is a token, as it can end a statement.
-/

import Autograder.Number.Reader
import Autograder.Shell.Printing
import Autograder.Shell.Records.Program

namespace Autograder
namespace Shell
namespace Records

/-- A token. -/
inductive Token where
  | number (x : Float)
  | text (s : List Char)
  | regex (r : Regex)
  | word (s : List Char)
  /-- A word right in front of a parenthesis. -/
  | called (s : List Char)
  | operator (s : String)
  | lineEnd
  | programEnd

/-- A token is a word or an operator. -/
def Token.is (t : Token) (s : String) : Bool :=
  match t with
  | .word w | .called w => w == s.toList
  | .operator o => o == s
  | _ => false

/-- The name of a token in messages. -/
def Token.title : Token → String
  | .number _ | .text _ | .regex _ => "unexpected constant"
  | .word w | .called w => String.ofList w
  | .operator s => s
  | .lineEnd => "end of line"
  | .programEnd => "end of file"

/-- The operators, the longest first. -/
def operators : List String :=
  ["+=", "-=", "*=", "/=", "%=", "^=", "==", "<=", ">=", "!=", "++", "--", "&&", "||", ">>", "!~",
    "\x7b", "\x7d", "(", ")", "[", "]", ";", ",", "+", "-", "*", "/", "%", "^", "!", ">", "<", "|",
    "?", ":", "~", "$", "="]

/-- Words that no operand ends with. -/
def keywords : List String :=
  ["BEGIN", "END", "break", "continue", "delete", "do", "else", "exit", "for", "func", "function",
    "getline", "if", "in", "next", "nextfile", "print", "printf", "return", "while"]

/-- How regular expressions are written. -/
def dialect : Regex.Dialect := ⟨true, false, true, true⟩

/-- An operand can end with a token. -/
def Token.endsOperand : Token → Bool
  | .number _ | .text _ | .regex _ => true
  | .word w => keywords.all fun k => k.toList != w
  | .operator s => s == ")" || s == "]" || s == "$" || s == "++" || s == "--"
  | _ => false

/-- The character that a backslash and what follows it stand for, and what follows that. A backslash
in front of another character stands for itself. -/
def escaped : List Char → List Char × List Char
  | 'n' :: r => (['\n'], r)
  | 't' :: r => (['\t'], r)
  | 'r' :: r => (['\r'], r)
  | 'a' :: r => (['\x07'], r)
  | 'b' :: r => (['\x08'], r)
  | 'f' :: r => (['\x0c'], r)
  | 'v' :: r => (['\x0b'], r)
  | '"' :: r => (['"'], r)
  | '\\' :: r => (['\\'], r)
  | '\n' :: r => ([], r)
  | s =>
    let ds := (s.takeWhile fun c => '0' ≤ c && c ≤ '7').take 3
    if ds.isEmpty then (['\\'], s)
    else ([Char.ofNat (Nat.ofDigitChars 8 ds 0 % 256)], s.drop ds.length)

/-- A text with its backslashes replaced by what they stand for. -/
def unescape : Nat → List Char → List Char
  | 0, s => s
  | _, [] => []
  | fuel + 1, '\\' :: r =>
    let (c, r) := escaped r
    c ++ unescape fuel r
  | fuel + 1, c :: r => c :: unescape fuel r

/-- What stands up to an ending that no backslash quotes, and what follows it; `none` if the line
ends first. What comes before is in reverse. -/
def takeUpTo (ending : Char) (done : List Char) : List Char → Option (List Char × List Char)
  | [] => none
  | '\\' :: c :: r => takeUpTo ending (c :: '\\' :: done) r
  | c :: r =>
    if c = ending then some (done.reverse, r)
    else if c = '\n' then none
    else takeUpTo ending (c :: done) r

/-- A regular expression where a slash can be quoted. -/
def regexText : List Char → List Char
  | '\\' :: '/' :: r => '/' :: regexText r
  | '\\' :: c :: r => '\\' :: c :: regexText r
  | c :: r => c :: regexText r
  | [] => []

/-- The length of the number at the start of a text. -/
def numberLength (s : List Char) : Nat :=
  let whole := (s.takeWhile Char.isDigit).length
  let (length, digits) := match s.drop whole with
    | '.' :: r =>
      let places := (r.takeWhile Char.isDigit).length
      (whole + 1 + places, whole + places)
    | _ => (whole, whole)
  if digits = 0 then 0
  else
    match s.drop length with
    | e :: r =>
      if e = 'e' || e = 'E' then
        let sign := match r with
          | '+' :: _ | '-' :: _ => 1
          | _ => 0
        let exponent := ((r.drop sign).takeWhile Char.isDigit).length
        if exponent = 0 then length else length + 1 + sign + exponent
      else length
    | [] => length

/-- The first token of a text, what follows it, and how many lines it takes. -/
def nextToken (line : Nat) (last : Option Token) (s : List Char) :
    Except Fault (Token × List Char) :=
  match s with
  | [] => .ok (.programEnd, [])
  | '\n' :: r => .ok (.lineEnd, r)
  | '"' :: r =>
    match takeUpTo '"' [] r with
    | some (text, rest) => .ok (.text (unescape text.length text), rest)
    | none => .error (.openText line (r.takeWhile (· != '\n')))
  | c :: r =>
    if c = '/' && !last.any Token.endsOperand then
      match takeUpTo '/' [] r with
      | some (text, rest) =>
        match Regex.read dialect (regexText text) with
        | .ok regex => .ok (.regex regex, rest)
        | .error _ => .error (.badRegex line text)
      | none => .error (.openRegex line (r.takeWhile (· != '\n')))
    else if startsName c then
      let name := s.takeWhile isNameChar
      let rest := s.drop name.length
      .ok (if rest.head? == some '(' then .called name else .word name, rest)
    else
      match numberLength s with
      | 0 =>
        match operators.find? fun o => o.toList.isPrefixOf s with
        | some o => .ok (.operator o, s.drop o.length)
        | none => .error (.unknownChar line c)
      | n => .ok (.number ((Number.read? (s.take n)).getD 0.0), s.drop n)

/-- A text behind its blanks, its comment and its joined lines, and how many of these there are. -/
def skipBlanks (joined : Nat) : List Char → List Char × Nat
  | '\\' :: '\n' :: r => skipBlanks (joined + 1) r
  | '#' :: r => skipComment joined r
  | c :: r => if isBlank c || c = '\r' then skipBlanks joined r else (c :: r, joined)
  | [] => ([], joined)
where
  /-- What follows a comment. -/
  skipComment (joined : Nat) : List Char → List Char × Nat
    | '\n' :: r => ('\n' :: r, joined)
    | _ :: r => skipComment joined r
    | [] => ([], joined)

/-- The tokens of a text, each with its line. Each takes one of the fuel. -/
def tokensFrom : Nat → (line : Nat) → Option Token → List Char → Except Fault (List (Token × Nat))
  | 0, line, _, _ => .ok [(.programEnd, line + 1)]
  | fuel + 1, line, last, s => do
    let (s, joined) := skipBlanks 0 s
    let line := line + joined
    match ← nextToken line last s with
    | (.programEnd, _) => pure [(.programEnd, line + 1)]
    | (.lineEnd, rest) => do
      pure ((.lineEnd, line) :: (← tokensFrom fuel (line + 1) (some .lineEnd) rest))
    | (t, rest) => do pure ((t, line) :: (← tokensFrom fuel line (some t) rest))

/-- The tokens of a program. -/
def tokens (s : List Char) : Except Fault (List (Token × Nat)) :=
  tokensFrom (s.length + 1) 1 none s

end Records
end Shell
end Autograder
