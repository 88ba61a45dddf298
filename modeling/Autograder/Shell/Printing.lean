/-
# Printing

What `echo` and `printf` print. A backslash stands for the character that follows it in a usual
notation; three octal digits stand for a byte.
-/

import Autograder.Number.Reader
import Autograder.Number.Significant
import Autograder.Shell.Expansion

namespace Autograder
namespace Shell
namespace Printing

/-- A digit below 8. -/
def isOctal (c : Char) : Bool := '0' ≤ c && c ≤ '7'

/-- The byte of at most three octal digits, and what follows them. -/
def octal (s : List Char) : Char × List Char :=
  let ds := (s.take 3).takeWhile isOctal
  (Char.ofNat (Nat.ofDigitChars 8 ds 0 % 256), s.drop ds.length)

/-- What a backslash stands for, and what follows. -/
def escaped : List Char → Char × List Char
  | 'a' :: r => ('\x07', r)
  | 'b' :: r => ('\x08', r)
  | 'e' :: r => ('\x1B', r)
  | 'f' :: r => ('\x0C', r)
  | 'n' :: r => ('\n', r)
  | 'r' :: r => ('\r', r)
  | 't' :: r => ('\t', r)
  | 'v' :: r => ('\x0B', r)
  | '\\' :: r => ('\\', r)
  | s => if s.head?.any isOctal then octal s else ('\\', s)

/-- A text with what its backslashes stand for, and whether a `\c` ends the printing there. -/
def unescape : Nat → List Char → List Char × Bool
  | 0, s => (s, false)
  | _, [] => ([], false)
  | _, '\\' :: 'c' :: _ => ([], true)
  | fuel + 1, '\\' :: s =>
    let s := match s with
      | '0' :: d :: r => if isOctal d then d :: r else '0' :: d :: r
      | s => s
    let (c, r) := escaped s
    let (rest, ends) := unescape fuel r
    (c :: rest, ends)
  | fuel + 1, c :: s =>
    let (rest, ends) := unescape fuel s
    (c :: rest, ends)

/-- Arguments with a space between them. -/
def joined (args : List (List Char)) : List Char := [' '].intercalate args

/-- What `echo` prints. -/
def echo (args : List (List Char)) : List Char :=
  let (silent, args) := match args with
    | ['-', 'n'] :: args => (true, args)
    | args => (false, args)
  let text := joined args
  let (text, ends) := unescape text.length text
  if silent || ends then text else text ++ ['\n']

/-- How a value is printed. -/
structure Format where
  left : Bool
  zeros : Bool
  plus : Bool
  space : Bool
  alternate : Bool
  width : Nat
  precision : Option Nat

namespace Format

/-- The format with one more flag. -/
def flag? (f : Format) : Char → Option Format
  | '-' => some { f with left := true }
  | '0' => some { f with zeros := true }
  | '+' => some { f with plus := true }
  | ' ' => some { f with space := true }
  | '#' => some { f with alternate := true }
  | _ => none

/-- The flags at the start of a text, and what follows them. -/
def flags (f : Format) : List Char → Format × List Char
  | [] => (f, [])
  | c :: r =>
    match f.flag? c with
    | some f => flags f r
    | none => (f, c :: r)

/-- No format. -/
def none : Format := ⟨false, false, false, false, false, 0, .none⟩

/-- A text brought to the width. -/
def pad (f : Format) (s : List Char) : List Char :=
  let blanks := List.replicate (f.width - s.length) ' '
  if f.left then s ++ blanks else blanks ++ s

/-- A text, cut at the precision. -/
def text (f : Format) (s : List Char) : List Char :=
  f.pad (match f.precision with
    | some n => s.take n
    | .none => s)

/-- The sign of a number. -/
def sign (f : Format) (negative : Bool) : List Char :=
  if negative then ['-'] else if f.plus then ['+'] else if f.space then [' '] else []

/-- A sign and digits, brought to the width with zeros if those are asked for. -/
def signed (f : Format) (sign digits : List Char) : List Char :=
  if f.zeros && !f.left then
    sign ++ (List.replicate (f.width - sign.length - digits.length) '0' ++ digits)
  else f.pad (sign ++ digits)

/-- A whole number in the base that a letter stands for. -/
def whole (f : Format) (letter : Char) (n : Int) : List Char :=
  let base := if letter == 'o' then 8 else if letter == 'x' || letter == 'X' then 16 else 10
  let isSigned := letter == 'd' || letter == 'i'
  let digits := Nat.toDigits base (if isSigned then n.natAbs else (n % Int.pow 2 64).toNat)
  let digits := if letter == 'X' then digits.map Char.toUpper else digits
  let digits := List.replicate (f.precision.getD 0 - digits.length) '0' ++ digits
  let start := if !f.alternate then []
    else if letter == 'o' then ['0']
    else if letter == 'x' || letter == 'X' then ['0', letter] else []
  let f := if f.precision.isSome then { f with zeros := false } else f
  f.signed ((if isSigned then f.sign (n < 0) else []) ++ start) digits

/-- A number in the notation that a letter stands for: with a fixed number of places, with an
exponent, or the shorter of these. -/
def real (f : Format) (letter : Char) (x : Float) : List Char :=
  let places := f.precision.getD 6
  let text :=
    if letter.toLower == 'e' then exponential places x
    else if letter.toLower == 'g' then general places f.alternate x
    else fixed places x
  let s := if x.isNaN then "nan".toList else text.toList
  let s := if letter.isUpper then s.map Char.toUpper else s
  let f := if x.isFinite then f else { f with zeros := false }
  match s with
  | '-' :: digits => f.signed (f.sign true) digits
  | digits => f.signed (f.sign false) digits

end Format

/-- What has been printed, the arguments that are left, and what was wrong with some of them. -/
structure Printed where
  text : List Char
  arguments : List (List Char)
  faults : List (List Char)
  /-- A part of the format that has no meaning. -/
  broken : Option (List Char)
  ends : Bool

namespace Printed

/-- More text. -/
def add (p : Printed) (s : List Char) : Printed := { p with text := p.text ++ s }

/-- The next argument, if there is one. -/
def next (p : Printed) : List Char × Printed :=
  match p.arguments with
  | a :: as => (a, { p with arguments := as })
  | [] => ([], p)

/-- The value of an argument that should be a number; a fault is noted if it is none. -/
def number (p : Printed) (a : List Char) : Int × Printed :=
  match a with
  | [] => (0, p)
  | '"' :: c :: _ | '\'' :: c :: _ => (c.toNat, p)
  | _ =>
    match Calculation.signed? a with
    | some n => (n, p)
    | none =>
      let start := a.takeWhile Char.isDigit
      let fault :=
        if start.isEmpty then ": expected numeric value" else ": not completely converted"
      ((Calculation.signed? start).getD 0, { p with faults := p.faults ++ [a ++ bytesOf fault] })

/-- The number that stands in a format: digits, or an asterisk for the next argument. -/
def amount (p : Printed) (s : List Char) : Int × Printed × List Char :=
  match s with
  | '*' :: r =>
    let (a, p) := p.next
    let (n, p) := p.number a
    (n, p, r)
  | s =>
    let ds := s.takeWhile Char.isDigit
    (Nat.ofDigitChars 10 ds 0, p, s.drop ds.length)

/-- The format at the start of a text, and what follows it: flags, a width and a precision. -/
def format (p : Printed) (s : List Char) : Format × Printed × List Char :=
  let (f, s) := Format.none.flags s
  let (width, p, s) := p.amount s
  let f := { f with width := width.natAbs, left := f.left || width < 0 }
  match s with
  | '.' :: r =>
    let (precision, p, r) := p.amount r
    ({ f with precision := if precision < 0 then none else some precision.toNat }, p, r)
  | s => (f, p, s)

/-- The next argument printed in a format. -/
def convert (p : Printed) (f : Format) (letter : Char) : Printed :=
  let (a, p) := p.next
  match letter with
  | 's' => p.add (f.text a)
  | 'b' =>
    let (s, ends) := unescape a.length a
    { p.add (f.text s) with ends := ends }
  | 'c' => p.add (f.pad (a.take 1))
  | letter =>
    if "diouxX".toList.contains letter then
      let (n, p) := p.number a
      p.add (f.whole letter n)
    else
      match Number.read? (a.dropWhile isBlank) with
      | some x => p.add (f.real letter x)
      | none =>
        let p := if a.isEmpty then p
          else { p with faults := p.faults ++ [a ++ bytesOf ": expected numeric value"] }
        p.add (f.real letter 0.0)

/-- A format text printed once. -/
def once : Nat → Printed → List Char → Printed
  | 0, p, _ => p
  | _, p, [] => p
  | _, p, '\\' :: 'c' :: _ => { p with ends := true }
  | fuel + 1, p, '\\' :: s =>
    let (c, r) := escaped s
    once fuel (p.add [c]) r
  | fuel + 1, p, '%' :: s =>
    let (f, q, r) := p.format s
    match r with
    | letter :: r =>
      if letter = '%' && s.head? == some '%' then once fuel (p.add ['%']) r
      else if "diouxXcsbfFeEgG".toList.contains letter then
        let p := q.convert f letter
        if p.ends then p else once fuel p r
      else { p with broken := some ('%' :: s.take (s.length - r.length)), ends := true }
    | [] => { p with broken := some ('%' :: s), ends := true }
  | fuel + 1, p, c :: s => once fuel (p.add [c]) s

/-- A format text printed as often as there are arguments for it. -/
def repeated (format : List Char) : Nat → Printed → Printed
  | 0, p => p
  | fuel + 1, p =>
    let q := once format.length p format
    if q.ends || q.arguments.isEmpty || q.arguments.length = p.arguments.length then q
    else repeated format fuel q

end Printed

/-- What `printf` prints. -/
def printf (format : List Char) (args : List (List Char)) : Printed :=
  .repeated format (args.length + 1) ⟨[], args, [], none, false⟩

end Printing
end Shell
end Autograder
