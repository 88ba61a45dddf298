/-
# Blanks, and the text between them

The characters that separate words are those with Unicode's `White_Space` property. Three cuts
are made along them: `trimEnd`, `trim` and `lastWord?`.
-/

namespace Autograder
namespace Text

/-- The characters with the `White_Space` property. -/
def isBlank (c : Char) : Bool :=
  let n := c.toNat
  (0x09 ≤ n && n ≤ 0x0D) || n == 0x20 || n == 0x85 || n == 0xA0 || n == 0x1680 ||
    (0x2000 ≤ n && n ≤ 0x200A) || n == 0x2028 || n == 0x2029 || n == 0x202F || n == 0x205F ||
    n == 0x3000

/-- Text without the blanks it starts with. -/
def trimStart (s : List Char) : List Char := s.dropWhile isBlank

/-- Text without the blanks it ends with. -/
def trimEnd (s : List Char) : List Char := (s.reverse.dropWhile isBlank).reverse

/-- Text without the blanks at either end. -/
def trim (s : List Char) : List Char := trimEnd (trimStart s)

/-- Text that holds nothing but blanks, the empty text included. -/
def isAllBlank (s : List Char) : Bool := s.all isBlank

/-- The last of the words that blanks separate, if there is a word at all. -/
def lastWord? (s : List Char) : Option (List Char) :=
  match (s.reverse.dropWhile isBlank).takeWhile (fun c => !isBlank c) with
  | [] => none
  | w => some w.reverse

/-- A string without the blanks at either end. -/
def trimmed (s : String) : String := String.ofList (trim s.toList)

end Text
end Autograder
