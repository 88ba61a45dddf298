/-
# What the words of a script stand for

A word stands for any number of fields. Parameters are replaced by their values, commands by what
they print, and calculations by their results. What comes of that without quotes is cut into fields
at blanks, and each field that is a pattern is replaced by the paths that it matches.
-/

import Autograder.Shell.Calculation
import Autograder.Shell.Job
import Autograder.Shell.Pattern

namespace Autograder
namespace Shell

/-- Where a character of a field comes from. -/
inductive Origin where
  | written
  | found
  | quoted
  deriving DecidableEq

/-- A piece of what a word stands for. -/
inductive Piece where
  | char (c : Char) (origin : Origin)
  /-- Here is a field, even if nothing is in it. -/
  | mark
  /-- Here a field ends. -/
  | cut

/-- The characters of a value. -/
def pieces (quoted : Bool) (s : List Char) : List Piece :=
  s.map fun c => .char c (if quoted then .quoted else .found)

/-- The pieces of what stands instead of a value. -/
def Piece.found : Piece → Piece
  | .char c .written => .char c .found
  | p => p

/-- The arguments, each a field of its own. -/
def argumentPieces (quoted : Bool) : List (List Char) → List Piece
  | [] => []
  | [a] => (if quoted then [.mark] else []) ++ pieces quoted a
  | a :: as =>
    (if quoted then [.mark] else []) ++ pieces quoted a ++ .cut :: argumentPieces quoted as

/-- A number in decimal. -/
def decimal (n : Nat) : List Char := Nat.toDigits 10 n

/-- A number that may be negative, in decimal. -/
def signedDecimal (n : Int) : List Char := (if n < 0 then ['-'] else []) ++ decimal n.natAbs

/-- The characters that separate fields. -/
def separators (m : Machine) : List Char := (m.value? "IFS".toList).getD [' ', '\t', '\n']

/-- The letters of the options in the order in which they are shown. -/
def shownOptions : List Char := "ubaCEVvxsnmiIfe".toList

/-- The value of a parameter, if it has one. -/
def parameter? (m : Machine) (name : List Char) : Option (List Char) :=
  match name with
  | ['#'] => some (decimal m.arguments.length)
  | ['?'] => some (decimal m.status)
  | ['$'] => some (decimal m.main)
  | ['!'] => m.lastJob.map decimal
  | ['-'] => some (shownOptions.filter m.has)
  | ['0'] => some m.name
  | ['@'] | ['*'] =>
    some (((separators m).head?.toList).intercalate m.arguments)
  | _ =>
    if name.all Char.isDigit then
      match Nat.ofDigitChars 10 name 0 with
      | 0 => some m.name
      | n + 1 => m.arguments[n]?
    else m.value? name

/-- The value of a parameter that is used as it is. -/
def parameterPieces (m : Machine) (name : List Char) (quoted : Bool) : List Piece :=
  if name = ['@'] || (name = ['*'] && !quoted) then argumentPieces quoted m.arguments
  else pieces quoted ((parameter? m name).getD [])

/-- A parameter that is used has to have a value, where that is asked for. -/
def checkBound (name : List Char) : Run Unit := do
  let m ← get
  if m.has 'u' && (parameter? m name).isNone then giveUp (name ++ bytesOf ": parameter not set")

/-- The result of a calculation. One without a result ends the script, and one
whose result is too large ends the process. -/
def calculate (s : List Char) : Run (List Char) := do
  let m ← get
  let fault (message : String) : List Char :=
    bytesOf ("arithmetic expression: " ++ message ++ ": \"") ++ s ++ ['"']
  match Calculation.result (fun name => (m.value? name).getD []) s with
  | .ok (n, assigned) => do
    for (name, value) in assigned do
      setVariable name (signedDecimal value) false
    pure (signedDecimal n)
  | .error (.expecting what) => giveUp (fault ("expecting " ++ what))
  | .error .divisionByZero => giveUp (fault "division by zero")
  | .error .tooLarge => throw (.signal 8)
  | .error (.badNumber value) => giveUp (bytesOf "Illegal number: " ++ value)

/-- Text without the line feeds at its end. -/
def dropLineFeeds (s : List Char) : List Char := (s.reverse.dropWhile (· == '\n')).reverse

/-- The characters of some pieces, where a cut counts as a space. -/
def lettersOfPieces (ps : List Piece) : List Char :=
  ps.flatMap fun
    | .char c _ => [c]
    | .mark => []
    | .cut => [' ']

/-- The pattern that some pieces make. -/
def patternOf (ps : List Piece) : Pattern :=
  ps.flatMap fun
    | .char c origin => [(c, origin != .quoted)]
    | .mark => []
    | .cut => [(' ', false)]

/-- What a command in a word prints, as far as it belongs to the word. -/
def printedBy (e : Engine) (c : Command) : Run (List Char) := do
  let before := (← get).status
  let printed ← capture e.run (e.exec c)
  modify fun m => { m with status := before, inner := m.status }
  pure (dropLineFeeds (printed.filter (· != '\x00')))

/-- What a word stands for, where words inside its parts are `depth` deep at most. -/
def expandWord (e : Engine) : (depth : Nat) → Word → Run (List Piece)
  | _, [] => pure []
  | depth, .text s quoted :: ps => do
    let here := if quoted then .mark :: pieces true s else s.map fun c => .char c .written
    pure (here ++ (← expandWord e depth ps))
  | depth, .home :: ps => do
    let here := match (← get).value? "HOME".toList with
      | some path => pieces true path
      | none => [.char '~' .written]
    pure (here ++ (← expandWord e depth ps))
  | depth, .output c quoted :: ps => do
    let printed ← printedBy e c
    pure (pieces quoted printed ++ (← expandWord e depth ps))
  | depth, .parameter name .value quoted :: ps => do
    checkBound name
    let here := parameterPieces (← get) name quoted
    pure (here ++ (← expandWord e depth ps))
  | depth, .parameter name .length quoted :: ps => do
    checkBound name
    let here := pieces quoted (decimal ((parameter? (← get) name).getD []).length)
    pure (here ++ (← expandWord e depth ps))
  | _, .parameter _ .unknown _ :: _ => giveUp (bytesOf "Bad substitution")
  | 0, _ => pure []
  | depth + 1, .number calculation quoted :: ps => do
    let text ← expandWord e depth calculation
    let here := pieces quoted (← calculate (lettersOfPieces text))
    pure (here ++ (← expandWord e (depth + 1) ps))
  | depth + 1, .parameter name (.without pattern atEnd longest) quoted :: ps => do
    checkBound name
    let p := patternOf (← expandWord e depth pattern)
    let here := pieces quoted (p.cutFrom atEnd longest ((parameter? (← get) name).getD []))
    pure (here ++ (← expandWord e (depth + 1) ps))
  | depth + 1, .parameter name (.ifThere word notEmpty) _ :: ps => do
    let value := parameter? (← get) name
    let isThere := if notEmpty then value.any (!·.isEmpty) else value.isSome
    let here ← if isThere then expandWord e depth word else pure []
    pure (here.map Piece.found ++ (← expandWord e (depth + 1) ps))
  | depth + 1, .parameter name (.orFail message orEmpty) quoted :: ps => do
    let value := parameter? (← get) name
    if if orEmpty then value.any (!·.isEmpty) else value.isSome then
      let here := parameterPieces (← get) name quoted
      pure (here ++ (← expandWord e (depth + 1) ps))
    else
      let said := lettersOfPieces (← expandWord e depth message)
      let usual := "parameter not set" ++ if orEmpty then " or null" else ""
      giveUp (name ++ bytesOf ": " ++ if said.isEmpty then bytesOf usual else said)
  | depth + 1, .parameter name (.orElse word orEmpty keep) quoted :: ps => do
    let value := parameter? (← get) name
    let isThere := if orEmpty then value.any (!·.isEmpty) else value.isSome
    let here ←
      if isThere then pure (parameterPieces (← get) name quoted)
      else do
        let here ← expandWord e depth word
        if keep then
          if !isName name then giveUp (name ++ bytesOf ": bad variable name")
          setVariable name (lettersOfPieces here) false
        pure (here.map Piece.found)
    pure (here ++ (← expandWord e (depth + 1) ps))

/-- How deep words can stand in each other. -/
def maxDepth : Nat := 1000

/-- Fields in the making. The current field, if there is one, and its characters stand in reverse;
with `absorbed`, one more separator that is no blank still belongs to the one before. -/
structure Fields where
  done : List Pattern
  current : Option Pattern
  absorbed : Bool

namespace Fields

/-- Ends the current field. -/
def close (f : Fields) (absorbed : Bool) : Fields :=
  match f.current with
  | some p => ⟨p.reverse :: f.done, none, absorbed⟩
  | none => { f with absorbed := absorbed }

/-- One more piece. -/
def push (separators : List Char) (f : Fields) : Piece → Fields
  | .mark => { f with current := some (f.current.getD []), absorbed := false }
  | .cut => f.close false
  | .char c origin =>
    if origin == .found && separators.contains c then
      if isBlank c || c == '\n' then
        match f.current with
        | some _ => f.close true
        | none => f
      else if f.absorbed && f.current.isNone then { f with absorbed := false }
      else { f with current := some (f.current.getD []) }.close false
    else
      { f with current := some ((c, origin != .quoted) :: f.current.getD []), absorbed := false }

/-- The fields. -/
def all (f : Fields) : List Pattern := (f.close false).done.reverse

end Fields

/-- A word has all arguments as a quoted part. -/
def hasAllArguments (w : Word) : Bool :=
  w.any fun
    | .parameter name .value true => name == ['@']
    | _ => false

/-- Nothing but marks. -/
def isBare (ps : List Piece) : Bool :=
  ps.all fun
    | .mark => true
    | _ => false

/-- The fields that a word stands for. Where there are no arguments, all of them make no field. -/
def fieldsOf (e : Engine) (w : Word) : Run (List (List Char)) := do
  let ps ← expandWord e maxDepth w
  let m ← get
  if hasAllArguments w && m.arguments.isEmpty && isBare ps then pure []
  else
    let fields := (ps.foldl (Fields.push (separators m)) ⟨[], none, false⟩).all
    pure (if m.has 'f' then fields.map Pattern.letters
      else fields.flatMap (Pattern.expand m.files))

/-- The fields that some words stand for. -/
def fieldsOfAll (e : Engine) : List Word → Run (List (List Char))
  | [] => pure []
  | w :: ws => do pure ((← fieldsOf e w) ++ (← fieldsOfAll e ws))

/-- The text that a word stands for where it is not cut into fields. -/
def textOf (e : Engine) (w : Word) : Run (List Char) := do
  pure (lettersOfPieces (← expandWord e maxDepth w))

end Shell
end Autograder
