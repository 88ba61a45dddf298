/-
# JSON values

A number is kept as it is written, and an object keeps its members in order, repeated names
included: what a repeated name means is for the reader of the object to say.
-/

namespace Autograder
namespace Json

/-- A JSON value. -/
inductive Value where
  | null
  | bool (b : Bool)
  | number (literal : List Char)
  | string (s : String)
  /-- A string with half of a surrogate pair: it is well formed, but it is no text. -/
  | brokenString
  | array (items : List Value)
  | object (members : List (String × Value))
  /-- An object with such a string for a name. -/
  | brokenObject

end Json
end Autograder
