/-
# Values and tables

A value is a number or a text; a text that was read counts as a number where it looks like one. A
table leads from texts to values. The order in which a loop goes through its keys is that of their
hash codes; keys with the same one follow each other from the one that was used last.
-/

import Autograder.Number.Reader
import Autograder.Number.Significant
import Autograder.Shell.Printing

namespace Autograder
namespace Shell
namespace Records

/-- A value. -/
inductive Value where
  | nothing
  | number (x : Float)
  | text (s : List Char)
  /-- A text that was read. -/
  | given (s : List Char)

/-- The largest number that is written without an exponent. -/
def largestWhole : Float := 18446744073709551616.0

/-- A number as a text: whole numbers with all their digits, and others in a format with so many
significant digits. -/
def numberText (format : Printing.Format) (letter : Char) (x : Float) : List Char :=
  if x.isNaN then "-nan".toList
  else if x.floor == x && x.abs ≤ largestWhole then
    let n := min (Nat.pow 2 64 - 1) x.abs.toUInt64.toNat
    let n := if largestWhole ≤ x.abs then Nat.pow 2 64 - 1 else n
    (if x < 0.0 then ['-'] else []) ++ Nat.toDigits 10 n
  else format.real letter x

/-- Digits in base 16. -/
def hexValue (s : List Char) : Nat :=
  s.foldl (fun n c => n * 16 + (Calculation.digit? 16 c).getD 0) 0

/-- The number at the start of a text without blanks in front, and how long it is. -/
def leadingNumber (s : List Char) : Float × Nat :=
  let (negative, rest) := match s with
    | '-' :: r => (true, r)
    | '+' :: r => (false, r)
    | r => (false, r)
  let signed (x : Float) : Float := if negative then -x else x
  let start := s.length - rest.length
  let whole := (rest.takeWhile Char.isDigit).length
  let hex := match rest with
    | '0' :: x :: r =>
      if x = 'x' || x = 'X' then r.takeWhile fun c => (Calculation.digit? 16 c).isSome else []
    | _ => []
  if !hex.isEmpty then (signed (Number.nearest (hexValue hex) 0), start + 2 + hex.length)
  else
    let places := match rest.drop whole with
      | '.' :: r => 1 + (r.takeWhile Char.isDigit).length
      | _ => 0
    let digits := whole + places - min places 1
    if digits = 0 then
      let word := (rest.take 3).map Char.toLower
      if word = "inf".toList then (signed Number.infinity, start + 3)
      else if word = "nan".toList then (Number.nan, start + 3)
      else (0.0, 0)
    else
      let mantissa := whole + places
      let exponent := match rest.drop mantissa with
        | e :: r =>
          let sign := match r with
            | '+' :: _ | '-' :: _ => 1
            | _ => 0
          let n := ((r.drop sign).takeWhile Char.isDigit).length
          if (e = 'e' || e = 'E') && n != 0 then 1 + sign + n else 0
        | [] => 0
      let length := start + mantissa + exponent
      ((Number.read? (s.take length)).getD 0.0, length)

/-- A blank or the like. -/
def isSpace (c : Char) : Bool := c == ' ' || ('\t' ≤ c && c ≤ '\r')

/-- The number that a text starts with. -/
def numberOf (s : List Char) : Float := (leadingNumber (s.dropWhile isSpace)).1

/-- The number that a text is, blanks aside. -/
def wholeNumber? (s : List Char) : Option Float :=
  let s := s.dropWhile isSpace
  let (x, length) := leadingNumber s
  if 0 < length && (s.drop length).all isSpace then some x else none

namespace Value

/-- A value as a number. -/
def toNumber : Value → Float
  | .nothing => 0.0
  | .number x => x
  | .text s | .given s => numberOf s

/-- A value that counts as a number. -/
def number? : Value → Option Float
  | .nothing => some 0.0
  | .number x => some x
  | .text _ => none
  | .given s => wholeNumber? s

/-- A value that counts as true. -/
def isTrue : Value → Bool
  | .nothing => false
  | .number x => x != 0.0
  | .text s => !s.isEmpty
  | .given s =>
    match wholeNumber? s with
    | some x => x != 0.0
    | none => !s.isEmpty

/-- A value as a text, with a format for numbers that are not whole. -/
def toText (format : Printing.Format) (letter : Char) : Value → List Char
  | .nothing => []
  | .number x => numberText format letter x
  | .text s | .given s => s

/-- A truth value. -/
def ofBool (b : Bool) : Value := .number (if b then 1.0 else 0.0)

end Value

/-- The format that an option variable gives for numbers, and its letter. -/
def formatOf (s : List Char) : Printing.Format × Char :=
  match s with
  | '%' :: r =>
    let (f, r) := Printing.Format.none.flags r
    let width := r.takeWhile Char.isDigit
    let f := { f with width := Nat.ofDigitChars 10 width 0 }
    match r.drop width.length with
    | '.' :: r =>
      let places := r.takeWhile Char.isDigit
      let letter := ((r.drop places.length).head?).getD 'g'
      ({ f with precision := some (Nat.ofDigitChars 10 places 0) }, letter)
    | letter :: _ => (f, letter)
    | [] => (f, 'g')
  | _ => (Printing.Format.none, 'g')

/-- A table. Keys are kept as they were used: as texts, and as numbers as long as no text was
asked for; in both lists the one that was used last comes first. -/
structure Table where
  cells : List (List Char × Value)
  texts : List (List Char)
  numbers : List Nat
  hasTexts : Bool

namespace Table

/-- An empty table. -/
def empty : Table := ⟨[], [], [], false⟩

/-- How many lists of keys there are for a number of keys. -/
def sizeFor (count : Nat) : Nat :=
  if count ≤ 768 then 64 else if count ≤ 1536 then 128 else if count ≤ 3072 then 256 else 1024

/-- The hash code of a text. -/
def hashOf (s : List Char) : Nat :=
  s.foldl (fun h c => (h ^^^ c.toNat) * 16777619 % Nat.pow 2 32) 2166136261

/-- The number that a text is the usual form of. -/
def index? (key : List Char) : Option Nat :=
  let n := Nat.ofDigitChars 10 key 0
  if key.all Char.isDigit && Nat.toDigits 10 n == key then some n else none

/-- Keys that were numbers become texts as well. -/
def withTexts (t : Table) : Table :=
  if t.hasTexts then t
  else
    let size := sizeFor t.cells.length
    let byList := t.numbers.mergeSort fun a b => decide (a % size ≤ b % size)
    let texts := byList.map (Nat.toDigits 10)
    let fresh := texts.filter fun s => !t.texts.contains s
    { t with texts := fresh.reverse ++ t.texts, hasTexts := true }

/-- The table after the use of a key as a text, which may be new. -/
def useText (t : Table) (key : List Char) : Table :=
  let t := t.withTexts
  { t with texts := key :: t.texts.filter (· != key) }

/-- The table after the use of a key, which may be new. -/
def use (t : Table) (key : List Char) (isNumber : Bool) : Table :=
  let t := if (t.cells.find? fun c => c.1 == key).isSome then t
    else { t with cells := (key, .nothing) :: t.cells }
  match if isNumber then index? key else none with
  | some n =>
    if t.numbers.contains n then { t with numbers := n :: t.numbers.filter (· != n) }
    else
      let t := if t.hasTexts then t.useText key else t
      { t with numbers := n :: t.numbers }
  | none => t.useText key

/-- A key is in the table. -/
def has (t : Table) (key : List Char) : Bool := t.cells.any fun c => c.1 == key

/-- The value of a key. -/
def get (t : Table) (key : List Char) : Value := (t.cells.lookup key).getD .nothing

/-- The table with a value for a key that is in it. -/
def set (t : Table) (key : List Char) (v : Value) : Table :=
  { t with cells := (key, v) :: t.cells.filter fun c => c.1 != key }

/-- The table without a key. -/
def erase (t : Table) (key : List Char) : Table :=
  let t := { t with
    cells := t.cells.filter fun c => c.1 != key
    texts := t.texts.filter (· != key)
    numbers := t.numbers.filter fun n => Nat.toDigits 10 n != key }
  if t.cells.isEmpty then empty else t

/-- The keys in the order of a loop. -/
def keys (t : Table) : List (List Char) :=
  let t := t.withTexts
  let size := sizeFor t.cells.length
  t.texts.mergeSort fun a b => decide (hashOf a % size ≤ hashOf b % size)

/-- The table of some values, whose keys are their numbers from 1 on. -/
def ofValues (vs : List Value) : Table :=
  let numbers := (List.range vs.length).map (· + 1)
  ⟨(numbers.map (Nat.toDigits 10)).zip vs, [], numbers.reverse, false⟩

end Table

end Records
end Shell
end Autograder
