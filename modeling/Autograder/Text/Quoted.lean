/-
# Quoted text

How a faulty line is shown inside a message: between double quotes, on one line, with every
character that a reader could not see, or could not tell from its neighbour, spelled out.
-/

import Autograder.Text.Combining
import Autograder.Text.Unprintable

namespace Autograder
namespace Text

/-- A character given by its number, in lower-case hexadecimal between braces. -/
def numberedChar (c : Char) : List Char :=
  ['\\', 'u', '\x7b'] ++ Nat.toDigits 16 c.toNat ++ ['\x7d']

/-- A character as it stands inside a quotation. -/
def quotedChar (c : Char) : List Char :=
  if c = '"' || c = '\\' then ['\\', c]
  else if c = '\n' then ['\\', 'n']
  else if c = '\r' then ['\\', 'r']
  else if c = '\t' then ['\\', 't']
  else if c.toNat = 0 then ['\\', '0']
  else if isCombining c || isUnprintable c then numberedChar c
  else [c]

/-- A text between double quotes. -/
def quoted (s : String) : String :=
  String.ofList (['"'] ++ s.toList.flatMap quotedChar ++ ['"'])

end Text
end Autograder
