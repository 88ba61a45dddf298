/-
# Numbers and texts

The utilities that calculate, count, print and wait, and those that say something about the system.
-/

import Autograder.Report.Timestamp
import Autograder.Shell.Condition
import Autograder.Shell.Printing
import Autograder.Shell.Regex.Reader
import Autograder.Shell.Utility.Basic

namespace Autograder
namespace Shell
namespace Utility

/-- A number in decimal places: `units` of the last of so many places, and the characters it was
written with. -/
structure Amounted where
  units : Int
  places : Nat
  width : Nat

/-- The number that a text gives. -/
def Amounted.read? (s : List Char) : Option Amounted :=
  let (negative, r) := match s with
    | '-' :: r => (true, r)
    | '+' :: r => (false, r)
    | r => (false, r)
  let whole := r.takeWhile Char.isDigit
  let (part, r) := match r.drop whole.length with
    | '.' :: r => (r.takeWhile Char.isDigit, r.dropWhile Char.isDigit)
    | r => ([], r)
  let exponent := match r with
    | [] => some (0 : Int)
    | c :: r => if c = 'e' || c = 'E' then Calculation.signed? r else none
  if whole.isEmpty && part.isEmpty then none
  else
    exponent.map fun e =>
      let n : Int := Nat.ofDigitChars 10 (whole ++ part) 0
      let n := if negative then -n else n
      let shift : Int := e - part.length
      if 0 ≤ shift then ⟨n * Int.pow 10 shift.toNat, 0, s.length⟩
      else ⟨n, (-shift).toNat, s.length⟩

/-- The units of a number in more places. -/
def Amounted.scaled (a : Amounted) (places : Nat) : Int := a.units * Int.pow 10 (places - a.places)

/-- A number in so many places, with zeros in front up to a width. -/
def placesText (places width : Nat) (units : Int) : List Char :=
  let ds := decimal units.natAbs
  let ds := List.replicate (places + 1 - ds.length) '0' ++ ds
  let text := ds.take (ds.length - places) ++
    (if places = 0 then [] else '.' :: ds.drop (ds.length - places))
  let sign := if units < 0 then ['-'] else []
  sign ++ List.replicate (width - text.length - sign.length) '0' ++ text

/-- The most numbers that are counted. -/
def maxCount : Nat := 1000000

/-- Counts from one number to another. -/
def seq (args : List (List Char)) : Run Nat :=
  let negative (a : List Char) : Bool :=
    match a with
    | '-' :: c :: _ => c.isDigit || c == '.'
    | _ => false
  let options := args.takeWhile fun a => a.head? == some '-' && !negative a
  let isValued := options.getLast?.any fun a => a = ['-', 's'] || a = ['-', 'f']
  let count := options.length + if isValued then 1 else 0
  let words := [("separator", 's'), ("equal-width", 'w'), ("format", 'f')]
  withOptions "seq" ⟨"w", "sf", words, 1, true⟩ (args.take count) fun o => do
    let numbers := o.operands ++ args.drop count
    let usage (message : List Char) : Run Nat := misused "seq" message 1
    match numbers.find? fun a => (Amounted.read? a).isNone with
    | some a => usage (bytesOf "invalid floating point argument: " ++ inQuotes a)
    | none =>
      let one : Amounted := ⟨1, 0, 1⟩
      match numbers.filterMap Amounted.read? with
      | [] => usage (bytesOf "missing operand")
      | _ :: _ :: _ :: _ :: _ =>
        usage (bytesOf "extra operand " ++ inQuotes (numbers.getD 3 []))
      | read =>
        let (first, step, last) := match read with
          | [last] => (one, one, last)
          | [first, last] => (first, one, last)
          | first :: step :: rest => (first, step, rest.headD one)
          | [] => (one, one, one)
        if step.units = 0 then
          usage (bytesOf "invalid Zero increment value: " ++ inQuotes (numbers.getD 1 []))
        else
          let places := max first.places step.places
          let fine := max places last.places
          let start := first.scaled fine
          let increment := step.scaled fine
          let n := (((last.scaled fine - start).fdiv increment) + 1).toNat
          let width (a : Amounted) : Nat :=
            a.width + (places - a.places) - (a.places - places) +
              (if a.places = 0 && places ≠ 0 then 1 else 0) -
              (if a.places ≠ 0 && places = 0 then 1 else 0)
          let width := if o.has 'w' then max (width first) (width last) else 0
          let textOf (i : Nat) : List Char :=
            let units := (start + i * increment) / Int.pow 10 (fine - places)
            match o.value? 'f' with
            | some format => (Printing.printf format [placesText places 0 units]).text
            | none => placesText places width units
          let separator := (o.value? 's').getD ['\n']
          let ns := (List.range (min n maxCount)).map textOf
          unless ns.isEmpty do write (separator.intercalate ns ++ ['\n'])
          if maxCount < n then waitUntil (← get).limit
          pure 0

/-- What is left of an expression, and the word that was read last. -/
structure ExprRest where
  rest : List (List Char)
  last : List Char

/-- A step of the evaluation of an expression. -/
abbrev ExprStep := StateT ExprRest (Except (List Char))

/-- A value that counts as false: the empty text, or zero. -/
def isNull (s : List Char) : Bool :=
  s.isEmpty ||
    (let ds := if s.head? == some '-' then s.drop 1 else s
    !ds.isEmpty && ds.all (· == '0'))

/-- The whole number that a text gives. -/
def wholeOf? (s : List Char) : Option Int :=
  match s with
  | '-' :: ds => (digits? ds).map fun n => -(n : Int)
  | ds => (digits? ds).map Int.ofNat

/-- The whole number that a text gives; there has to be one. -/
def wholeOf (s : List Char) : ExprStep Int :=
  match wholeOf? s with
  | some n => pure n
  | none => throw (bytesOf "non-integer argument")

/-- The next word of an expression is one of some operators, which is passed over. -/
def exprOperator? (ops : List String) : ExprStep (Option String) := do
  match (← get).rest with
  | w :: rest =>
    match ops.find? fun op => op.toList == w with
    | some op => do
      set (⟨rest, w⟩ : ExprRest)
      pure (some op)
    | none => pure none
  | [] => pure none

/-- The next word of an expression, which there has to be. -/
def exprWord : ExprStep (List Char) := do
  match (← get).rest with
  | w :: rest => do
    set (⟨rest, w⟩ : ExprRest)
    pure w
  | [] => do
    let last := (← get).last
    throw (bytesOf "syntax error: missing argument after " ++ inQuotes last)

/-- What a text matches of a regular expression at its start: its first group, or how long it is. -/
def exprMatch (s pattern : List Char) : ExprStep (List Char) := do
  match Regex.read ⟨false, false, false, false⟩ pattern with
  | .error e => throw (bytesOf e.message)
  | .ok r =>
    let text := s.toArray
    match r.matchAt? text 0 with
    | some m => pure (if 0 < r.groupCount then m.group text 1 else decimal m.finish)
    | none => pure (if 0 < r.groupCount then [] else ['0'])

/-- A switch as the value of an expression. -/
def exprBool (b : Bool) : List Char := if b then ['1'] else ['0']

/-- Two values compared: as numbers, if both are. -/
def exprCompare (op : String) (a b : List Char) : Bool :=
  let order := match wholeOf? a, wholeOf? b with
    | some x, some y => compare x y
    | _, _ => compareOfLessAndEq a b
  match op with
  | "<" => order == .lt
  | "<=" => order != .gt
  | "=" | "==" => order == .eq
  | "!=" => order != .eq
  | ">=" => order != .lt
  | _ => order == .gt

/-- The operators of an expression by how tightly they bind. -/
def exprOperators : List (List String) :=
  [["|"], ["&"], ["<", "<=", "=", "==", "!=", ">=", ">"], ["+", "-"], ["*", "/", "%"], [":"]]

/-- The value of an operator between two operands, where `idle` values have no faults. -/
def exprOperate (idle : Bool) (op : String) (a b : List Char) : ExprStep (List Char) := do
  let number (f : Int → Int → Int) : ExprStep (List Char) := do
    if idle then pure ['0'] else pure (signedDecimal (f (← wholeOf a) (← wholeOf b)))
  match op with
  | "|" => pure (if !isNull a then a else if !isNull b then b else ['0'])
  | "&" => pure (if isNull a || isNull b then ['0'] else a)
  | "+" => number (· + ·)
  | "-" => number (· - ·)
  | "*" => number (· * ·)
  | "/" | "%" =>
    if !idle && (wholeOf? b) == some 0 && (wholeOf? a).isSome then
      throw (bytesOf "division by zero")
    else number (if op = "/" then Int.tdiv else Int.tmod)
  | ":" => if idle then pure ['0'] else exprMatch a b
  | op => pure (exprBool (exprCompare op a b))

mutual

/-- The value of operands joined by operators of a level and those that bind more tightly. -/
def exprLevel : Nat → (level : Nat) → (idle : Bool) → ExprStep (List Char)
  | 0, _, _ => throw (bytesOf "syntax error")
  | fuel + 1, level, idle => do
    match exprOperators[level]? with
    | none => exprOperand fuel idle
    | some _ => do
      let a ← exprLevel fuel (level + 1) idle
      exprMore fuel level idle a

/-- The value of an operand and of the operators behind it. -/
def exprMore : Nat → (level : Nat) → (idle : Bool) → List Char → ExprStep (List Char)
  | 0, _, _, _ => throw (bytesOf "syntax error")
  | fuel + 1, level, idle, a => do
    match ← exprOperator? (exprOperators.getD level []) with
    | none => pure a
    | some op => do
      let settled := (op == "|" && !isNull a) || (op == "&" && isNull a)
      let b ← exprLevel fuel (level + 1) (idle || settled)
      let value ← exprOperate idle op a b
      exprMore fuel level idle value

/-- The value of an operand. -/
def exprOperand : Nat → (idle : Bool) → ExprStep (List Char)
  | 0, _ => throw (bytesOf "syntax error")
  | fuel + 1, idle => do
    match String.ofList (← exprWord) with
    | "(" => do
      let value ← exprLevel fuel 0 idle
      match (← get).rest with
      | [')'] :: rest => do
        set (⟨rest, [')']⟩ : ExprRest)
        pure value
      | w :: _ =>
        throw (bytesOf "syntax error: expecting ')' instead of " ++ inQuotes w)
      | [] => do
        let last := (← get).last
        throw (bytesOf "syntax error: expecting ')' after " ++ inQuotes last)
    | ")" => throw (bytesOf "syntax error: unexpected ')'")
    | "+" => exprWord
    | "length" => do
      let a ← exprOperand fuel idle
      pure (decimal a.length)
    | "match" => do
      let a ← exprOperand fuel idle
      let b ← exprOperand fuel idle
      exprOperate idle ":" a b
    | "index" => do
      let a ← exprOperand fuel idle
      let b ← exprOperand fuel idle
      pure (decimal ((a.findIdx? b.contains).elim 0 (· + 1)))
    | "substr" => do
      let a ← exprOperand fuel idle
      let start := wholeOf? (← exprOperand fuel idle)
      let count := wholeOf? (← exprOperand fuel idle)
      pure (match start, count with
        | some s, some n =>
          if s ≤ 0 || n ≤ 0 then [] else (a.drop (s.toNat - 1)).take n.toNat
        | _, _ => [])
    | w => pure w.toList

end

/-- Shows the value of an expression. -/
def expr (args : List (List Char)) : Run Nat := do
  let args := if args.head? == some ['-', '-'] then args.drop 1 else args
  if args.isEmpty then return (← misused "expr" (bytesOf "missing operand") 2)
  let fault (message : List Char) : Run Nat := do
    report "expr" message
    pure 2
  match (exprLevel (16 * args.length + 16) 0 false).run ⟨args, []⟩ with
  | .error message => fault message
  | .ok (value, r) =>
    match r.rest with
    | w :: _ => fault (bytesOf "syntax error: unexpected argument " ++ inQuotes w)
    | [] => do
      writeLine value
      pure (if isNull value then 1 else 0)

/-- The time that an argument gives, in nanoseconds. -/
def duration? (s : List Char) : Option Nat :=
  let (digits, unit) := match s.getLast? with
    | some 's' => (s.dropLast, 1.0)
    | some 'm' => (s.dropLast, 60.0)
    | some 'h' => (s.dropLast, 3600.0)
    | some 'd' => (s.dropLast, 86400.0)
    | _ => (s, 1.0)
  (Number.read? digits).bind fun x =>
    if x < 0.0 || x.isNaN then none else some (x * unit * 1000000000.0).toUInt64.toNat

/-- Waits. -/
def sleep (args : List (List Char)) : Run Nat :=
  withOptions "sleep" (.letters "" "") args fun o => do
    if o.operands.isEmpty then return (← misused "sleep" (bytesOf "missing operand") 1)
    match o.operands.filter fun a => (duration? a).isNone with
    | [] => do
      spend (o.operands.foldl (fun n a => n + (duration? a).getD 0) 0)
      pure 0
    | bad => do
      for a in bad do report "sleep" (bytesOf "invalid time interval " ++ inQuotes a)
      writeError (bytesOf (hint "sleep"))
      pure 1

/-- Prints its arguments. Backslashes have no meaning unless it is asked for. -/
def echo (args : List (List Char)) : Run Nat := do
  let isFlags (a : List Char) : Bool :=
    match a with
    | '-' :: c :: cs => (c :: cs).all fun d => d == 'n' || d == 'e' || d == 'E'
    | _ => false
  let flags := (args.takeWhile isFlags).flatten
  let text := Printing.joined (args.dropWhile isFlags)
  let (text, ends) :=
    if flags.contains 'e' then Printing.unescape text.length text else (text, false)
  write (if ends || flags.contains 'n' then text else text ++ ['\n'])
  pure 0

/-- Prints its arguments in a format, and says what is wrong with them by `tell`. -/
def printf (tell : List Char → Run Unit) (args : List (List Char)) : Run Nat := do
  let args := if args.head? == some ['-', '-'] then args.drop 1 else args
  match args with
  | format :: args => do
    let p := Printing.printf format args
    write p.text
    for fault in p.faults do tell fault
    match p.broken with
    | some part => do
      tell (part ++ bytesOf ": invalid directive")
      pure 2
    | none => pure (if p.faults.isEmpty then 0 else 1)
  | [] => do
    tell (bytesOf "usage: printf format [arg ...]")
    pure 2

/-- Decides a condition, and says by `tell` what is wrong with it. -/
def test (tell : List Char → Run Unit) (args : List (List Char)) : Run Nat := do
  let (status, message) := Condition.status (← get).files args
  match message with
  | some s => tell s
  | none => pure ()
  pure status

/-- Decides a condition between brackets. -/
def bracket (tell : List Char → Run Unit) (args : List (List Char)) : Run Nat := do
  match args.getLast? with
  | some [']'] => test tell args.dropLast
  | _ => do
    tell (bytesOf "missing ]")
    pure 2

/-- The names of days and months. -/
def dayNames : List String :=
  ["Sunday", "Monday", "Tuesday", "Wednesday", "Thursday", "Friday", "Saturday"]

/-- The names of months. -/
def monthNames : List String :=
  ["January", "February", "March", "April", "May", "June", "July", "August", "September",
    "October", "November", "December"]

/-- The moment that time is counted from where nothing else is known, in seconds. -/
def epoch : Int := 1700000000

/-- One part of a date. -/
def datePart (seconds : Int) (c : Char) : String :=
  let day := seconds.fdiv 86400
  let (year, month, date) := Instant.date day
  let second := (seconds.fmod 86400).toNat
  let two := Instant.padded 2
  let weekday := ((day + 4).fmod 7).toNat
  let time := two (second / 3600) ++ ":" ++ two (second / 60 % 60) ++ ":" ++ two (second % 60)
  let dayName := dayNames.getD weekday ""
  let monthName := monthNames.getD (month - 1) ""
  let short (s : String) : String := String.ofList (s.toList.take 3)
  match c with
  | 'Y' => toString year
  | 'y' => two (year.fmod 100).toNat
  | 'm' => two month
  | 'd' => two date
  | 'e' => (if date < 10 then " " else "") ++ toString date
  | 'H' => two (second / 3600)
  | 'M' => two (second / 60 % 60)
  | 'S' => two (second % 60)
  | 's' => toString seconds
  | 'N' => "000000000"
  | 'F' => toString year ++ "-" ++ two month ++ "-" ++ two date
  | 'T' => time
  | 'D' => two month ++ "/" ++ two date ++ "/" ++ two (year.fmod 100).toNat
  | 'R' => two (second / 3600) ++ ":" ++ two (second / 60 % 60)
  | 'a' => short dayName
  | 'A' => dayName
  | 'b' | 'h' => short monthName
  | 'B' => monthName
  | 'u' => toString (if weekday = 0 then 7 else weekday)
  | 'w' => toString weekday
  | 'Z' => "UTC"
  | 'z' => "+0000"
  | 'n' => "\n"
  | 't' => "\t"
  | '%' => "%"
  | c => String.ofList ['%', c]

/-- A date in a format. -/
def dateText (seconds : Int) : List Char → List Char
  | '%' :: c :: r => bytesOf (datePart seconds c) ++ dateText seconds r
  | c :: r => c :: dateText seconds r
  | [] => []

/-- Shows the date. -/
def date (args : List (List Char)) : Run Nat :=
  withOptions "date" ⟨"uR", "dr", [("utc", 'u'), ("date", 'd')], 1, false⟩ args fun o => do
    let now := epoch + ((← get).clock / 1000000000 : Nat)
    let seconds? := match o.value? 'd' with
      | some ('@' :: ds) => wholeOf? ds
      | some _ | none => some now
    match seconds?, o.operands with
    | none, _ => do
      report "date" (bytesOf "invalid date " ++ inQuotes ((o.value? 'd').getD []))
      pure 1
    | some seconds, ('+' :: format) :: _ => do
      writeLine (dateText seconds format)
      pure 0
    | some _, a :: _ => do
      report "date" (bytesOf "invalid date " ++ inQuotes a)
      pure 1
    | some seconds, [] => do
      writeLine (dateText seconds (bytesOf "%a %b %e %H:%M:%S %Z %Y"))
      pure 0

/-- The parts of what `uname` shows, by the letters that ask for them. -/
def systemParts : List (Char × String) :=
  [('s', "Linux"), ('n', "localhost"), ('r', "6.1.0"), ('v', "#1 SMP"), ('m', "x86_64"),
    ('o', "GNU/Linux")]

/-- Shows what the system is. -/
def uname (args : List (List Char)) : Run Nat :=
  withOptions "uname" (.letters "asnrvmpio" "") args fun o => do
    let isWanted (c : Char) : Bool := o.has c || o.has 'a' || (o.letters.isEmpty && c == 's')
    let parts := (systemParts.filter fun p => isWanted p.1).map Prod.snd
    writeLine (bytesOf (" ".intercalate parts))
    pure 0

/-- Shows who runs it. -/
def id (args : List (List Char)) : Run Nat :=
  withOptions "id" (.letters "ugGnr" "") args fun o => do
    if o.has 'u' || o.has 'g' || o.has 'G' then writeLine (if o.has 'n' then bytesOf "root" else ['0'])
    else writeLine (bytesOf "uid=0(root) gid=0(root) groups=0(root)")
    pure 0

/-- Shows a fixed text. -/
def say (text : String) (_ : List (List Char)) : Run Nat := do
  writeLine (bytesOf text)
  pure 0

/-- Says that the input is no terminal. -/
def tty (args : List (List Char)) : Run Nat :=
  withOptions "tty" (.letters "s" "") args fun o => do
    unless o.has 's' do writeLine (bytesOf "not a tty")
    pure 1

end Utility
end Shell
end Autograder
