/-
# Reading JSON

The reader accepts the JSON grammar and nothing else. A string is read in two steps: first its
characters and escaped units, then the text they make. Two units that form a surrogate pair are one
character, and any other surrogate unit leaves the string without a text, which matters only where
the string or the object that it names a member of is looked at.
-/

import Autograder.Json.Number
import Autograder.Json.Value

namespace Autograder
namespace Json

/-- The blanks of JSON. -/
def isSpace (c : Char) : Bool := c == ' ' || c == '\t' || c == '\n' || c == '\r'

/-- The text after its leading blanks. -/
def skipSpace (s : List Char) : List Char := s.dropWhile isSpace

/-- A part of a string: a character as it is, or a unit given by its number. -/
inductive Piece where
  | char (c : Char)
  | unit (n : Nat)

/-- The value of a hexadecimal digit. -/
def hexValue? (c : Char) : Option Nat :=
  if c.isDigit then some (c.toNat - '0'.toNat)
  else if 'a' ≤ c && c ≤ 'f' then some (c.toNat - 'a'.toNat + 10)
  else if 'A' ≤ c && c ≤ 'F' then some (c.toNat - 'A'.toNat + 10)
  else none

/-- The value of four hexadecimal digits. -/
def hexUnit? (a b c d : Char) : Option Nat :=
  match hexValue? a, hexValue? b, hexValue? c, hexValue? d with
  | some a, some b, some c, some d => some (((a * 16 + b) * 16 + c) * 16 + d)
  | _, _, _, _ => none

/-- The character that a backslash and one letter stand for. -/
def simpleEscape? (c : Char) : Option Char :=
  if c = '"' || c = '\\' || c = '/' then some c
  else if c = 'b' then some '\x08'
  else if c = 'f' then some '\x0c'
  else if c = 'n' then some '\n'
  else if c = 'r' then some '\r'
  else if c = 't' then some '\t'
  else none

/-- The parts of a string whose opening quote has been read, and what follows the closing one. The
parts read so far stand in reverse. -/
def readPieces (done : List Piece) : List Char → Option (List Piece × List Char)
  | [] => none
  | '"' :: r => some (done.reverse, r)
  | '\\' :: 'u' :: a :: b :: c :: d :: r =>
    match hexUnit? a b c d with
    | some n => readPieces (.unit n :: done) r
    | none => none
  | '\\' :: e :: r =>
    match simpleEscape? e with
    | some c => readPieces (.char c :: done) r
    | none => none
  | c :: r => if c.toNat < 0x20 || c = '\\' then none else readPieces (.char c :: done) r

/-- The first unit of a surrogate pair. -/
def isHigh (n : Nat) : Bool := 0xD800 ≤ n && n ≤ 0xDBFF

/-- The second unit of a surrogate pair. -/
def isLow (n : Nat) : Bool := 0xDC00 ≤ n && n ≤ 0xDFFF

/-- The characters that parts of a string make, after those of `done`, which stand in reverse. -/
def joinPieces? (done : List Char) : List Piece → Option (List Char)
  | [] => some done.reverse
  | .char c :: ps => joinPieces? (c :: done) ps
  | .unit n :: .unit m :: ps =>
    if isHigh n && isLow m then
      joinPieces? (Char.ofNat (0x10000 + (n - 0xD800) * 0x400 + (m - 0xDC00)) :: done) ps
    else if isHigh n || isLow n then none
    else joinPieces? (Char.ofNat n :: done) (.unit m :: ps)
  | .unit n :: ps => if isHigh n || isLow n then none else joinPieces? (Char.ofNat n :: done) ps

/-- A string whose opening quote has been read, and what follows it. -/
def readString (s : List Char) : Option (Value × List Char) :=
  (readPieces [] s).map fun (pieces, r) =>
    (match joinPieces? [] pieces with
      | some cs => .string (String.ofList cs)
      | none => .brokenString, r)

/-- The object with the given members, some of whose names may be no texts. -/
def objectOf (members : List (Value × Value)) : Value :=
  let named? := members.mapM fun (name, v) =>
    match name with
    | .string s => some (s, v)
    | _ => none
  match named? with
  | some members => .object members
  | none => .brokenObject

/-- The text after the given word, if it starts with it. -/
def afterWord? : List Char → List Char → Option (List Char)
  | [], s => some s
  | w :: ws, c :: s => if w = c then afterWord? ws s else none
  | _ :: _, [] => none

/-- A word that stands for a value, and what follows it. -/
def readWord (word : String) (v : Value) (s : List Char) : Option (Value × List Char) :=
  (afterWord? word.toList s).map fun r => (v, r)

/-- A number, and what follows it. -/
def readLiteral (s : List Char) : Option (Value × List Char) :=
  (takeNumber? s).map fun (_, r) => (.number (s.take (s.length - r.length)), r)

mutual

/-- A value, and what follows it. Values nest less deeply than `depth`. -/
def readValue : Nat → List Char → Option (Value × List Char)
  | 0, _ => none
  | depth + 1, s =>
    match skipSpace s with
    | [] => none
    | c :: r =>
      if c = '"' then readString r
      else if c = '[' then
        match skipSpace r with
        | ']' :: r => some (.array [], r)
        | r => readItems depth [] r
      else if c = '\x7b' then
        match skipSpace r with
        | '\x7d' :: r => some (.object [], r)
        | r => readMembers depth [] r
      else if c = 't' then readWord "true" (.bool true) (c :: r)
      else if c = 'f' then readWord "false" (.bool false) (c :: r)
      else if c = 'n' then readWord "null" .null (c :: r)
      else readLiteral (c :: r)

/-- The items of an array up to its end, after those of `done`, which stand in reverse. -/
def readItems : Nat → List Value → List Char → Option (Value × List Char)
  | 0, _, _ => none
  | depth + 1, done, s =>
    match readValue depth s with
    | none => none
    | some (v, r) =>
      match skipSpace r with
      | ',' :: r => readItems depth (v :: done) r
      | ']' :: r => some (.array (v :: done).reverse, r)
      | _ => none

/-- The members of an object up to its end, after those of `done`, which stand in reverse. -/
def readMembers : Nat → List (Value × Value) → List Char → Option (Value × List Char)
  | 0, _, _ => none
  | depth + 1, done, s =>
    match skipSpace s with
    | '"' :: r =>
      match readString r with
      | none => none
      | some (name, r) =>
        match skipSpace r with
        | ':' :: r =>
          match readValue depth r with
          | none => none
          | some (v, r) =>
            match skipSpace r with
            | ',' :: r => readMembers depth ((name, v) :: done) r
            | '\x7d' :: r => some (objectOf ((name, v) :: done).reverse, r)
            | _ => none
        | _ => none
    | _ => none

end

/-- The value that a text holds. Every value and every item begins with a character of its own, so
the length of the text bounds what there is to read. -/
def read? (text : String) : Option Value :=
  let s := text.toList
  match readValue (2 * s.length + 2) s with
  | some (v, r) => if (skipSpace r).isEmpty then some v else none
  | none => none

end Json
end Autograder
