/-
# Shell tokens

The words and operators that a script is read as, the words among them that have a meaning of their
own, and what can be wrong with a script.
-/

import Autograder.Shell.Command

namespace Autograder
namespace Shell

/-- A space or a tab. -/
def isBlank (c : Char) : Bool := c == ' ' || c == '\t'

/-- A character that ends a word. -/
def endsWord (c : Char) : Bool := isBlank c || c == '\n' || ";&|<>()".toList.contains c

/-- A character that a name starts with. -/
def startsName (c : Char) : Bool := c.isAlpha || c == '_'

/-- A character of a name. -/
def isNameChar (c : Char) : Bool := c.isAlphanum || c == '_'

/-- A text is a name. -/
def isName (s : List Char) : Bool := s.head?.any startsName && s.all isNameChar

/-- A parameter that is no variable and has a single character for a name. -/
def isSpecialParameter (c : Char) : Bool := "@*#?$!-".toList.contains c

/-- A backquote. -/
def backquote : Char := '\x60'

/-- A token. The beginning of a redirection is followed by the word that it needs. -/
inductive Token where
  | word (w : Word)
  | operator (s : String)
  | redirect (stream : Nat) (kind : RedirectKind)
  /-- A text on the lines below, where tabs at the start of a line may not count. -/
  | here (stream : Nat) (tabs : Bool)
  | lineEnd
  | scriptEnd

/-- The letters of a word that is written without quotes and without dollar signs. -/
def plainText? : Word → Option (List Char)
  | [.text s false] => some s
  | _ => none

/-- The words that have a meaning where a command starts. -/
def keywords : List String :=
  ["!", "case", "do", "done", "elif", "else", "esac", "fi", "for", "if", "in", "then", "until",
    "while", "\x7b", "\x7d"]

/-- The keywords that a list of commands ends before. -/
def closingKeywords : List String := ["do", "done", "elif", "else", "esac", "fi", "then", "\x7d"]

/-- The keyword that a token is. -/
def Token.keyword? : Token → Option String
  | .word w => ((plainText? w).map String.ofList).filter keywords.contains
  | _ => none

/-- A token is a keyword. -/
def Token.isKeyword (t : Token) (name : String) : Bool := t.keyword? == some name

/-- A token is an operator. -/
def Token.isOperator (t : Token) (op : String) : Bool :=
  match t with
  | .operator s => s == op
  | _ => false

/-- A list of commands ends before a token. -/
def Token.closesList (t : Token) : Bool :=
  match t with
  | .scriptEnd => true
  | .operator s => s == ")" || s == ";;"
  | t => t.keyword?.any closingKeywords.contains

/-- A text between double quotes, as messages name tokens. -/
def named (s : String) : String := "\"" ++ s ++ "\""

/-- What messages call a token. -/
def Token.title (t : Token) : String :=
  match t with
  | .word _ => (t.keyword?.map named).getD "word"
  | .operator s => named s
  | .redirect _ _ | .here _ _ => "redirection"
  | .lineEnd => "newline"
  | .scriptEnd => "end of file"

/-- What can be wrong with a script. -/
inductive Fault where
  /-- A token that cannot stand where it does, and the one that has to. -/
  | unexpected (found : Token) (wanted : Option String)
  /-- A word where a parenthesis has to be closed. -/
  | unexpectedWord
  | openQuote
  | openBackquote
  | openBrace
  | openCalculation
  | badLoopVariable
  | badFunctionName
  | tooDeep

/-- A fault in words. -/
def Fault.message : Fault → String
  | .unexpected found none => found.title ++ " unexpected"
  | .unexpected found (some wanted) =>
    found.title ++ " unexpected (expecting " ++ named wanted ++ ")"
  | .unexpectedWord => "word unexpected (expecting \")\")"
  | .openQuote => "Unterminated quoted string"
  | .openBackquote => "EOF in backquote substitution"
  | .openBrace => "Missing '\x7d'"
  | .openCalculation => "Missing '))'"
  | .badLoopVariable => "Bad for loop variable"
  | .badFunctionName => "Bad function name"
  | .tooDeep => "Too deep"

/-- The characters of a word, whether they are quoted or not. -/
def lettersOf (w : Word) : List Char :=
  w.flatMap fun
    | .text s _ => s
    | _ => []

/-- No part of a word is quoted. -/
def isUnquoted (w : Word) : Bool :=
  w.all fun
    | .text _ quoted => !quoted
    | _ => true

end Shell
end Autograder
