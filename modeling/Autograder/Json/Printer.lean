/-
# Writing JSON

Members and items stand on lines of their own, indented by two spaces for each level. Inside a
string only the quote, the backslash and the control characters are escaped.
-/

import Autograder.Json.Value

namespace Autograder
namespace Json

/-- A hexadecimal digit. -/
def hexDigit (n : Nat) : Char := Nat.digitChar (n % 16)

/-- A character as it stands inside a string. -/
def escaped (c : Char) : List Char :=
  if c = '"' then ['\\', '"']
  else if c = '\\' then ['\\', '\\']
  else if c = '\n' then ['\\', 'n']
  else if c = '\r' then ['\\', 'r']
  else if c = '\t' then ['\\', 't']
  else if c = '\x08' then ['\\', 'b']
  else if c = '\x0c' then ['\\', 'f']
  else if c.toNat < 0x20 then ['\\', 'u', '0', '0', hexDigit (c.toNat / 16), hexDigit c.toNat]
  else [c]

/-- A string between its quotes. -/
def stringText (s : String) : List Char := '"' :: (s.toList.flatMap escaped ++ ['"'])

/-- The start of a line at a level. -/
def newLine (level : Nat) : List Char := '\n' :: List.replicate (2 * level) ' '

mutual

/-- A value whose first character stands on a line of the given level. -/
def Value.text (level : Nat) : Value → List Char
  | .null | .brokenString | .brokenObject => "null".toList
  | .bool b => (if b then "true" else "false").toList
  | .number literal => literal
  | .string s => stringText s
  | .array [] => ['[', ']']
  | .array (v :: vs) =>
    '[' :: (newLine (level + 1) ++ v.text (level + 1) ++ itemsText (level + 1) vs ++
      (newLine level ++ [']']))
  | .object [] => ['\x7b', '\x7d']
  | .object ((name, v) :: ms) =>
    '\x7b' :: (newLine (level + 1) ++ stringText name ++ [':', ' '] ++ v.text (level + 1) ++
      membersText (level + 1) ms ++ (newLine level ++ ['\x7d']))

/-- The items of an array after the first. -/
def itemsText (level : Nat) : List Value → List Char
  | [] => []
  | v :: vs => ',' :: (newLine level ++ v.text level ++ itemsText level vs)

/-- The members of an object after the first. -/
def membersText (level : Nat) : List (String × Value) → List Char
  | [] => []
  | (name, v) :: ms =>
    ',' :: (newLine level ++ stringText name ++ [':', ' '] ++ v.text level ++ membersText level ms)

end

/-- A value as a text of its own. -/
def Value.pretty (v : Value) : String := String.ofList (v.text 0)

end Json
end Autograder
