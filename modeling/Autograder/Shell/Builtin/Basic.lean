/-
# Arguments of built-in commands

The switches and numbers that built-in commands are given, and how values are written so that they
can be read again.
-/

import Autograder.Shell.Redirection

namespace Autograder
namespace Shell
namespace Builtin

/-- A number given to a built-in command. -/
def number (s : List Char) : Run Nat := do
  if !s.isEmpty && s.all Char.isDigit then pure (Nat.ofDigitChars 10 s 0)
  else giveUp (bytesOf "Illegal number: " ++ s)

/-- The number that is given, or another. -/
def numberOr (default : Nat) (args : List (List Char)) : Run Nat :=
  match args with
  | [] => pure default
  | s :: _ => number s

/-- A letter that is no switch of the command. -/
def illegalOption {α : Type} (letter : Char) : Run α :=
  giveUp (bytesOf "Illegal option -" ++ [letter])

/-- The switches of one argument, each with its value if it has one; a value may stand in the next
argument. Letters with a value are those of `valued`. -/
def lettersIn (plain valued : String) : List Char → List (List Char) →
    Run (List (Char × List Char) × List (List Char))
  | [], args => pure ([], args)
  | c :: cs, args => do
    if valued.toList.contains c then
      match cs, args with
      | [], [] => giveUp (bytesOf "No arg for -" ++ c :: bytesOf " option")
      | [], a :: args => pure ([(c, a)], args)
      | cs, args => pure ([(c, cs)], args)
    else if plain.toList.contains c then
      let (rest, args) ← lettersIn plain valued cs args
      pure ((c, []) :: rest, args)
    else illegalOption c

/-- The switches at the start of some arguments, and what follows them. -/
def switchesUpTo (plain valued : String) : Nat → List (List Char) →
    Run (List (Char × List Char) × List (List Char))
  | 0, args => pure ([], args)
  | fuel + 1, args =>
    match args with
    | ['-', '-'] :: args => pure ([], args)
    | ('-' :: c :: cs) :: args => do
      let (here, args) ← lettersIn plain valued (c :: cs) args
      let (rest, args) ← switchesUpTo plain valued fuel args
      pure (here ++ rest, args)
    | args => pure ([], args)

/-- The switches at the start of some arguments, and what follows them. -/
def switches (plain valued : String) (args : List (List Char)) :
    Run (List (Char × List Char) × List (List Char)) :=
  switchesUpTo plain valued args.length args

/-- One of some switches is a given letter. -/
def isOn (letter : Char) (os : List (Char × List Char)) : Bool := os.any fun o => o.1 == letter

/-- A name that variables have to have. -/
def checkName (name : List Char) : Run Unit := do
  unless isName name do giveUp (name ++ bytesOf ": bad variable name")

/-- A text between single quotes; single quotes in it stand between double quotes. -/
def inQuotesUpTo : Nat → List Char → List Char
  | 0, _ => []
  | fuel + 1, s =>
    let plain := s.takeWhile (· != '\'')
    let quotes := (s.drop plain.length).takeWhile (· == '\'')
    let rest := s.drop (plain.length + quotes.length)
    '\'' :: (plain ++ ['\'']) ++
      (if quotes.isEmpty then [] else '"' :: (quotes ++ ['"'])) ++
      (if rest.isEmpty then [] else inQuotesUpTo fuel rest)

/-- A text as a script would have it between quotes. -/
def inQuotes (s : List Char) : List Char := inQuotesUpTo (s.length + 1) s

/-- A list of variables in the order of their names, each behind a text. -/
def showVariables (start : String) (vs : List Variable) : Run Unit := do
  let ordered := vs.mergeSort fun a b => !decide (b.name < a.name)
  for v in ordered do
    let value := match v.value with
      | some s => '=' :: inQuotes s
      | none => []
    writeLine (bytesOf start ++ v.name ++ value)

/-- The name and the value, if there is one, of an argument that may be an assignment. -/
def splitAssignment (a : List Char) : List Char × Option (List Char) :=
  let name := a.takeWhile (· != '=')
  match a.drop name.length with
  | _ :: value => (name, some value)
  | [] => (name, none)

end Builtin
end Shell
end Autograder
