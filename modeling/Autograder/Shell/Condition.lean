/-
# Conditions

What `test` decides about texts, numbers and files. A condition on one or two words, possibly negated
or in parentheses, can be joined with others by `-a` and, less tightly, by `-o`. A word that would be
an operator is an operand where the words around it leave no other choice.
-/

import Autograder.Shell.Expansion

namespace Autograder
namespace Shell
namespace Condition

/-- What an operator does. -/
inductive Kind where
  | unary
  | binary
  | negation
  | both
  | either
  | opening
  | closing
  deriving DecidableEq

/-- The kind of an operator. -/
def kind? (s : List Char) : Option Kind :=
  match String.ofList s with
  | "!" => some .negation
  | "-a" => some .both
  | "-o" => some .either
  | "(" => some .opening
  | ")" => some .closing
  | "=" | "==" | "!=" | "<" | ">" | "-eq" | "-ne" | "-ge" | "-gt" | "-le" | "-lt" | "-nt" | "-ot"
  | "-ef" => some .binary
  | _ =>
    match s with
    | ['-', letter] => if "rwxefdcbpugkstznhOGLS".toList.contains letter then some .unary else none
    | _ => none

/-- What the word at a place is: an operator, an operand, or missing. -/
inductive Role where
  | missing
  | operand
  | operator (k : Kind)
  deriving DecidableEq

/-- An operator for one word is an operand if nothing follows it, or an operator for two words and
another word. -/
def standsAlone (args : Array (List Char)) (i : Nat) : Bool :=
  match args[i + 1]?, args[i + 2]? with
  | none, _ => true
  | some _, none => false
  | some t, some _ => kind? t == some .binary

/-- What the word at a place is. -/
def role (args : Array (List Char)) (i : Nat) : Role :=
  match args[i]? with
  | none => .missing
  | some s =>
    match kind? s with
    | some .unary => if standsAlone args i then .operand else .operator .unary
    | some .opening => if i + 1 < args.size then .operator .opening else .operand
    | some k => .operator k
    | none => .operand

/-- A condition on a file. -/
def onFile (fs : Files) (letter : Char) (path : List Char) : Bool :=
  match fs.find (toText path), letter with
  | .ok (_, .file _ _), 'f' => true
  | .ok (_, .file bytes _), 's' => bytes.size != 0
  | .ok (_, .file _ executable), 'x' => executable
  | .ok (_, .directory), 'f' => false
  | .ok (_, .directory), 's' | .ok (_, .directory), 'x' | .ok (_, .directory), 'd' => true
  | .ok _, 'e' | .ok _, 'r' | .ok _, 'w' => true
  | _, _ => false

/-- A number, or what is wrong with it. -/
def number (a : List Char) : Except (List Char) Int :=
  let s := (a.dropWhile fun c => isBlank c || c == '\n')
  let s := (s.reverse.dropWhile fun c => isBlank c || c == '\n').reverse
  let (negative, ds) := match s with
    | '-' :: r => (true, r)
    | '+' :: r => (false, r)
    | r => (false, r)
  if !ds.isEmpty && ds.all Char.isDigit then
    let n : Int := Nat.ofDigitChars 10 ds 0
    .ok (if negative then -n else n)
  else .error (bytesOf "Illegal number: " ++ a)

/-- A condition on two numbers. -/
def compare? (op : String) : Option (Int → Int → Bool) :=
  match op with
  | "-eq" => some fun a b => a == b
  | "-ne" => some fun a b => a != b
  | "-lt" => some fun a b => a < b
  | "-le" => some fun a b => a ≤ b
  | "-gt" => some fun a b => b < a
  | "-ge" => some fun a b => b ≤ a
  | _ => none

/-- A condition on one text. -/
def unary (fs : Files) (op a : List Char) : Except (List Char) Bool :=
  match op with
  | ['-', 'z'] => .ok a.isEmpty
  | ['-', 'n'] => .ok !a.isEmpty
  | ['-', 't'] => (number a).map fun _ => false
  | ['-', letter] => .ok (onFile fs letter a)
  | _ => .ok false

/-- A condition on two texts. -/
def binary (fs : Files) (a op b : List Char) : Except (List Char) Bool :=
  match String.ofList op with
  | "=" | "==" => .ok (a == b)
  | "!=" => .ok (a != b)
  | "<" => .ok (a < b)
  | ">" => .ok (b < a)
  | "-ef" =>
    match fs.find (toText a), fs.find (toText b) with
    | .ok (p, _), .ok (q, _) => .ok (p == q)
    | _, _ => .ok false
  | op =>
    match compare? op with
    | some f => do pure (f (← number a) (← number b))
    | none => .ok false

/-- A fault, with the word that it is about. -/
def fault {α : Type} (word : List Char) (message : String) : Except (List Char) α :=
  .error (if word.isEmpty then bytesOf message else word ++ bytesOf (": " ++ message))

mutual

/-- A condition made of others, of which one has to hold, from a place on; and the last place that
belongs to it. -/
def either (fs : Files) (args : Array (List Char)) : Nat → Nat → Role →
    Except (List Char) (Bool × Nat)
  | 0, i, _ => .ok (false, i)
  | fuel + 1, i, r => do
    let (here, i) ← both fs args fuel i r
    if role args (i + 1) = .operator .either then
      let (rest, i) ← either fs args fuel (i + 2) (role args (i + 2))
      pure (here || rest, i)
    else pure (here, i)

/-- A condition made of others, all of which have to hold. -/
def both (fs : Files) (args : Array (List Char)) : Nat → Nat → Role →
    Except (List Char) (Bool × Nat)
  | 0, i, _ => .ok (false, i)
  | fuel + 1, i, r => do
    let (here, i) ← single fs args fuel i r
    if role args (i + 1) = .operator .both then
      let (rest, i) ← both fs args fuel (i + 2) (role args (i + 2))
      pure (here && rest, i)
    else pure (here, i)

/-- A condition that is not made of others, or the contrary of one. -/
def single (fs : Files) (args : Array (List Char)) : Nat → Nat → Role →
    Except (List Char) (Bool × Nat)
  | 0, i, _ => .ok (false, i)
  | fuel + 1, i, r =>
    let word (i : Nat) : List Char := (args[i]?).getD []
    match r with
    | .missing => .ok (false, i)
    | .operator .negation => do
      let next := role args (i + 1)
      let (b, i) ← single fs args fuel (if next = .missing then i else i + 1) next
      pure (!b, i)
    | .operator .opening => do
      let next := role args (i + 1)
      if next = .operator .closing then pure (false, i + 1)
      else
        let (b, i) ← either fs args fuel (i + 1) next
        if role args (i + 1) = .operator .closing then pure (b, i + 1)
        else fault [] "closing paren expected"
    | .operator .unary =>
      if i + 1 < args.size then do pure (← unary fs (word i) (word (i + 1)), i + 1)
      else fault (word i) "argument expected"
    | _ =>
      if role args (i + 1) = .operator .binary then
        if i + 2 < args.size then do
          pure (← binary fs (word i) (word (i + 1)) (word (i + 2)), i + 2)
        else fault (word (i + 1)) "argument expected"
      else .ok (!(word i).isEmpty, i)

end

/-- The condition that some words make holds, or what is wrong with it. Three and four words have a
meaning that goes by their number. -/
def holds (fs : Files) : List (List Char) → Except (List Char) Bool
  | [] => .ok false
  | a :: rest =>
    let whole (args : List (List Char)) (operand : Bool) : Except (List Char) Bool := do
      let args := args.toArray
      let first := if operand then .operand else role args 0
      let (b, i) ← either fs args (4 * args.size + 4) 0 first
      if i + 1 < args.size then fault ((args[i]?).getD []) "unexpected operator" else pure b
    let last := rest.getLast?
    match rest with
    | [op, _] =>
      if kind? op = some .binary then whole (a :: rest) true
      else if a = ['('] && last == some [')'] then whole rest.dropLast false
      else if a = ['!'] then (holds fs rest).map (!·)
      else whole (a :: rest) false
    | [_, _, _] =>
      if a = ['('] && last == some [')'] then whole rest.dropLast false
      else if a = ['!'] then (holds fs rest).map (!·)
      else whole (a :: rest) false
    | _ => whole (a :: rest) false

/-- What `test` comes to: its exit code, and a message if it is an error. -/
def status (fs : Files) (args : List (List Char)) : Nat × Option (List Char) :=
  match holds fs args with
  | .ok true => (0, none)
  | .ok false => (1, none)
  | .error message => (2, some message)

end Condition
end Shell
end Autograder
