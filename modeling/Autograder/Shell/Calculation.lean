/-
# Calculations

The whole numbers that scripts calculate with, in 64 bits. A name stands for the value of a variable,
which a calculation may also set, and a comparison is 1 or 0. What need not be looked at for the
result is calculated without effect.
-/

import Autograder.Shell.Token

namespace Autograder
namespace Shell
namespace Calculation

/-- What can be wrong with a calculation. -/
inductive Fault where
  /-- Something has to stand where something else, or nothing, does. -/
  | expecting (what : String)
  | divisionByZero
  /-- The result of a division does not fit in 64 bits. -/
  | tooLarge
  /-- The value of a variable is no number. -/
  | badNumber (value : List Char)

/-- A piece of a calculation. -/
inductive Item where
  | number (n : Int)
  | name (s : List Char)
  | operator (s : String)
  /-- A character that has no meaning. -/
  | unknown
  deriving DecidableEq

/-- The operators, the longest first. -/
def operators : List String :=
  ["<<=", ">>=", "<<", ">>", "<=", ">=", "==", "!=", "&&", "||", "+=", "-=", "*=", "/=", "%=", "&=",
    "|=", "^=", "+", "-", "*", "/", "%", "<", ">", "&", "|", "^", "!", "~", "(", ")", "?", ":", "="]

/-- The largest number that 64 bits with a sign hold. -/
def largest : Nat := Nat.pow 2 63 - 1

/-- A character that may stand between the pieces of a calculation. -/
def isSpace (c : Char) : Bool := isBlank c || c == '\n'

/-- The value of a digit in a base. -/
def digit? (base : Nat) (c : Char) : Option Nat :=
  let value := if c.isDigit then c.toNat - '0'.toNat
    else if c.isAlpha then c.toLower.toNat - 'a'.toNat + 10
    else base
  if value < base then some value else none

/-- The number that digits in a base make. -/
def valueOf (base : Nat) (ds : List Char) : Nat :=
  ds.foldl (fun n c => n * base + (digit? base c).getD 0) 0

/-- The number at the start of a text, whose start tells its base, and what follows it: a zero and
an x stand before hexadecimal digits, and a zero before octal ones. -/
def takeNumber (s : List Char) : Nat × List Char :=
  let digits (base : Nat) (s : List Char) : Nat × List Char :=
    let ds := s.takeWhile fun c => (digit? base c).isSome
    (valueOf base ds, s.drop ds.length)
  match s with
  | '0' :: x :: d :: r =>
    if (x = 'x' || x = 'X') && (digit? 16 d).isSome then digits 16 (d :: r)
    else digits 8 ('0' :: x :: d :: r)
  | '0' :: r => digits 8 ('0' :: r)
  | s => digits 10 s

/-- A number that may have a sign and blanks around it; no number is larger than 64 bits hold. -/
def signed? (s : List Char) : Option Int :=
  let s := s.dropWhile isSpace
  let s := (s.reverse.dropWhile isSpace).reverse
  let (negative, s) := match s with
    | '-' :: r => (true, r)
    | '+' :: r => (false, r)
    | r => (false, r)
  if !s.head?.any Char.isDigit then none
  else
    match takeNumber s with
    | (n, []) =>
      if n ≤ largest then some (if negative then -(n : Int) else n)
      else if negative && n = largest + 1 then some (-(n : Int))
      else none
    | _ => none

/-- The items of a calculation. Each takes one of `fuel`. -/
def items : Nat → List Char → List Item
  | 0, _ => []
  | _, [] => []
  | fuel + 1, c :: r =>
    if isSpace c then items fuel r
    else if c.isDigit then
      let (n, r) := takeNumber (c :: r)
      .number (min n largest) :: items fuel r
    else if startsName c then
      let name := (c :: r).takeWhile isNameChar
      .name name :: items fuel ((c :: r).drop name.length)
    else
      match operators.find? fun op => op.toList.isPrefixOf (c :: r) with
      | some op => .operator op :: items fuel ((c :: r).drop op.length)
      | none => [.unknown]

/-- How tightly an operator between two operands binds. -/
def level? : String → Option Nat
  | "||" => some 1
  | "&&" => some 2
  | "|" => some 3
  | "^" => some 4
  | "&" => some 5
  | "==" | "!=" => some 6
  | "<" | "<=" | ">" | ">=" => some 7
  | "<<" | ">>" => some 8
  | "+" | "-" => some 9
  | "*" | "/" | "%" => some 10
  | _ => none

/-- A number brought into 64 bits. -/
def wrap (n : Int) : Int := n.bmod (Nat.pow 2 64)

/-- A switch as a number. -/
def ofBool (b : Bool) : Int := if b then 1 else 0

/-- The bits of two numbers joined. -/
def onBits (f : UInt64 → UInt64 → UInt64) (a b : Int) : Int :=
  wrap (f (UInt64.ofInt a) (UInt64.ofInt b)).toNat

/-- The value of an operator between two operands. -/
def operate (op : String) (a b : Int) : Except Fault Int :=
  let shift := (b % 64).toNat
  let divide (n : Int) : Except Fault Int :=
    if b = 0 then .error .divisionByZero
    else if b = -1 && a = -Int.pow 2 63 then .error .tooLarge
    else .ok n
  match op with
  | "||" => .ok (ofBool (a != 0 || b != 0))
  | "&&" => .ok (ofBool (a != 0 && b != 0))
  | "|" => .ok (onBits (· ||| ·) a b)
  | "^" => .ok (onBits (· ^^^ ·) a b)
  | "&" => .ok (onBits (· &&& ·) a b)
  | "==" => .ok (ofBool (a == b))
  | "!=" => .ok (ofBool (a != b))
  | "<" => .ok (ofBool (a < b))
  | "<=" => .ok (ofBool (a ≤ b))
  | ">" => .ok (ofBool (b < a))
  | ">=" => .ok (ofBool (b ≤ a))
  | "<<" => .ok (wrap (a * Int.pow 2 shift))
  | ">>" => .ok (a.fdiv (Int.pow 2 shift))
  | "+" => .ok (wrap (a + b))
  | "-" => .ok (wrap (a - b))
  | "*" => .ok (wrap (a * b))
  | "/" => divide (a.tdiv b)
  | "%" => divide (a.tmod b)
  | _ => .error (.expecting "EOF")

/-- The operator of an assignment that also calculates; the plain one has none. -/
def assigning? (op : String) : Option String :=
  if op = "=" then some ""
  else if op.endsWith "=" && !(["==", "!=", "<=", ">="].contains op) then
    some (String.ofList op.toList.dropLast)
  else none

/-- What is left of a calculation, and the variables that it has set, the last first. -/
structure Progress where
  items : List Item
  assigned : List (List Char × Int)

/-- A step of a calculation. -/
abbrev Step := StateT Progress (Except Fault)

/-- The next item. -/
def head? : Step (Option Item) := do pure (← get).items.head?

/-- Passes over the next item. -/
def skip : Step Unit := modify fun p => { p with items := p.items.drop 1 }

/-- Passes over an operator that has to come next. -/
def expect (op what : String) : Step Unit := do
  if (← head?) = some (.operator op) then skip else throw (.expecting what)

/-- The value of a variable. One without a value is 0. -/
def lookUp (value : List Char → List Char) (name : List Char) : Step Int := do
  match (← get).assigned.lookup name with
  | some n => pure n
  | none =>
    let s := value name
    if s.all isSpace then pure 0
    else
      match signed? s with
      | some n => pure n
      | none => throw (.badNumber s)

mutual

/-- An operand. With `idle`, nothing has an effect. -/
def operand (value : List Char → List Char) : Nat → (idle : Bool) → Step Int
  | 0, _ => throw (.expecting "primary")
  | fuel + 1, idle => do
    match ← head? with
    | some (.number n) => do
      skip
      pure n
    | some (.name s) => do
      skip
      if idle then pure 0 else lookUp value s
    | some (.operator "(") => do
      skip
      let n ← whole value fuel idle
      expect ")" "')'"
      pure n
    | some (.operator "-") => do
      skip
      let n ← operand value fuel idle
      pure (wrap (-n))
    | some (.operator "+") => do
      skip
      operand value fuel idle
    | some (.operator "!") => do
      skip
      let n ← operand value fuel idle
      pure (ofBool (n == 0))
    | some (.operator "~") => do
      skip
      let n ← operand value fuel idle
      pure (-n - 1)
    | _ => throw (.expecting "primary")

/-- Operands joined by operators that bind more tightly than `level`. -/
def chain (value : List Char → List Char) : Nat → (level : Nat) → (idle : Bool) → Step Int
  | 0, _, _ => throw (.expecting "primary")
  | fuel + 1, level, idle => do
    let n ← operand value fuel idle
    more value fuel level idle n

/-- What comes of an operand and the operators behind it. -/
def more (value : List Char → List Char) :
    Nat → (level : Nat) → (idle : Bool) → (left : Int) → Step Int
  | 0, _, _, _ => throw (.expecting "primary")
  | fuel + 1, level, idle, a => do
    match ← head? with
    | some (.operator op) =>
      match (level? op).filter (level < ·) with
      | some l => do
        skip
        let settled := (op == "&&" && a == 0) || (op == "||" && a != 0)
        let b ← chain value fuel l (idle || settled)
        let n ← if idle then pure b
          else if settled then pure (ofBool (a != 0))
          else match operate op a b with
            | .ok n => pure n
            | .error e => throw e
        more value fuel level idle n
      | none => pure a
    | _ => pure a

/-- A calculation, possibly one of two by a test. -/
def choice (value : List Char → List Char) : Nat → (idle : Bool) → Step Int
  | 0, _ => throw (.expecting "primary")
  | fuel + 1, idle => do
    let n ← chain value fuel 0 idle
    if (← head?) = some (.operator "?") then
      skip
      let yes ← whole value fuel (idle || n == 0)
      expect ":" "':'"
      let no ← choice value fuel (idle || n != 0)
      pure (if n = 0 then no else yes)
    else pure n

/-- A calculation that may set a variable to its value. -/
def whole (value : List Char → List Char) : Nat → (idle : Bool) → Step Int
  | 0, _ => throw (.expecting "primary")
  | fuel + 1, idle => do
    match (← get).items with
    | .name s :: .operator op :: _ =>
      match assigning? op with
      | none => choice value fuel idle
      | some inner => do
        skip
        skip
        let b ← whole value fuel idle
        let n ← if idle || inner.isEmpty then pure b
          else match operate inner (← lookUp value s) b with
            | .ok n => pure n
            | .error e => throw e
        unless idle do modify fun p => { p with assigned := (s, n) :: p.assigned }
        pure n
    | _ => choice value fuel idle

end

/-- The value of a calculation, and the variables that it sets, in order. -/
def result (value : List Char → List Char) (s : List Char) :
    Except Fault (Int × List (List Char × Int)) := do
  let is := items (s.length + 1) s
  let (n, p) ← (whole value (8 * is.length + 8) false).run ⟨is, []⟩
  if p.items.isEmpty then pure (n, p.assigned.reverse) else throw (.expecting "EOF")

end Calculation
end Shell
end Autograder
