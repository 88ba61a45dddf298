/-
# Utilities

What the programs that a system always has are alike in: how their options are written, how they
read files, and how they say what is wrong. Each takes its arguments and comes to an exit code.
-/

import Autograder.Files.Edit
import Autograder.Shell.Builtin.Processes

namespace Autograder
namespace Shell
namespace Utility

/-- A message of a utility. -/
def report (name : String) (message : List Char) : Run Unit :=
  writeError (bytesOf (name ++ ": ") ++ message)

/-- Where help is to be found. -/
def hint (name : String) : String := "Try '" ++ name ++ " --help' for more information."

/-- A message of a utility about how it was called. -/
def misused (name : String) (message : List Char) (status : Nat) : Run Nat := do
  report name message
  writeError (bytesOf (hint name))
  pure status

/-- A text in quotes, as messages have it. -/
def inQuotes (s : List Char) : List Char := '\'' :: (s ++ ['\''])

/-- A name in quotes if it could be misread without them, as messages have it. -/
def titleOf (s : List Char) : List Char :=
  let isPlain (c : Char) : Bool :=
    c.isAlphanum || 128 ≤ c.toNat || "%+,-./:=@^_]\x7b\x7d".toList.contains c
  if !s.isEmpty && s.all isPlain then s else inQuotes s

/-- The options that a utility has: letters, letters with a value, and words that stand for letters.
With `ordered`, options end at the first argument that is none. -/
structure OptionSpec where
  plain : String
  valued : String
  words : List (String × Char)
  /-- The exit code for an option that there is not. -/
  failure : Nat
  ordered : Bool

/-- The options among some arguments, each with its value, and the others. -/
structure Options where
  letters : List (Char × List Char)
  operands : List (List Char)

namespace Options

/-- An option is given. -/
def has (o : Options) (letter : Char) : Bool := o.letters.any fun l => l.1 == letter

/-- The value of an option, the last one given. -/
def value? (o : Options) (letter : Char) : Option (List Char) := o.letters.reverse.lookup letter

/-- All values of an option. -/
def values (o : Options) (letter : Char) : List (List Char) :=
  o.letters.filterMap fun l => if l.1 = letter then some l.2 else none

/-- The paths to be read: a dash if none is given. -/
def orInput (o : Options) : List (List Char) := if o.operands.isEmpty then [['-']] else o.operands

/-- One more option. -/
def add (letter : Char) (value : List Char) (o : Options) : Options :=
  { o with letters := (letter, value) :: o.letters }

end Options

namespace OptionSpec

/-- The options that the letters of an argument give. The second argument is what follows it. -/
def readLetters (spec : OptionSpec) : List Char → List (List Char) →
    Except (List Char) (List (Char × List Char) × List (List Char))
  | [], args => .ok ([], args)
  | c :: cs, args =>
    if spec.valued.toList.contains c then
      match cs, args with
      | [], [] => .error (bytesOf "option requires an argument -- " ++ inQuotes [c])
      | [], a :: args => .ok ([(c, a)], args)
      | cs, args => .ok ([(c, cs)], args)
    else if spec.plain.toList.contains c then do
      let (rest, args) ← readLetters spec cs args
      pure ((c, []) :: rest, args)
    else .error (bytesOf "invalid option -- " ++ inQuotes [c])

/-- The option that a word gives, and what follows. -/
def readWord (spec : OptionSpec) (word : List Char) (args : List (List Char)) :
    Except (List Char) ((Char × List Char) × List (List Char)) :=
  let name := word.takeWhile (· != '=')
  let option := bytesOf "option '--" ++ name ++ bytesOf "'"
  match spec.words.find? fun w => name.isPrefixOf w.1.toList with
  | none => .error (bytesOf "unrecognized option '--" ++ word ++ bytesOf "'")
  | some (full, letter) =>
    match word.drop name.length, spec.valued.toList.contains letter, args with
    | _ :: value, true, args => .ok ((letter, value), args)
    | _ :: _, false, _ => .error (option ++ bytesOf " doesn't allow an argument")
    | [], true, a :: args => .ok ((letter, a), args)
    | [], true, [] =>
      .error (bytesOf ("option '--" ++ full ++ "' requires an argument"))
    | [], false, args => .ok ((letter, []), args)

/-- The options among some arguments. -/
def readUpTo (spec : OptionSpec) : Nat → List (List Char) → Except (List Char) Options
  | 0, args => .ok ⟨[], args⟩
  | fuel + 1, args =>
    match args with
    | [] => .ok ⟨[], []⟩
    | ['-', '-'] :: args => .ok ⟨[], args⟩
    | ('-' :: '-' :: word) :: args => do
      let ((letter, value), args) ← spec.readWord word args
      let rest ← readUpTo spec fuel args
      pure (rest.add letter value)
    | ('-' :: c :: cs) :: args => do
      let (letters, args) ← spec.readLetters (c :: cs) args
      let rest ← readUpTo spec fuel args
      pure { rest with letters := letters ++ rest.letters }
    | a :: args =>
      if spec.ordered then .ok ⟨[], a :: args⟩
      else do
        let rest ← readUpTo spec fuel args
        pure { rest with operands := a :: rest.operands }

end OptionSpec

/-- Does something with the options among some arguments, if they are those of the utility. -/
def withOptions (name : String) (spec : OptionSpec) (args : List (List Char))
    (act : Options → Run Nat) : Run Nat := do
  match spec.readUpTo args.length args with
  | .ok o => act o
  | .error message => misused name message spec.failure

/-- The options of a utility that takes letters only. -/
def OptionSpec.letters (plain valued : String) : OptionSpec := ⟨plain, valued, [], 1, false⟩

/-- All that is left to be read. -/
def takeInput : Run (Except FileError (List Char)) := do
  match ← Builtin.sourceOf 0 with
  | .error e => pure (.error e)
  | .ok (number, s) => do
    Builtin.leave number s [] true
    pure (.ok s.rest)

/-- The bytes at a path; a dash stands for what is to be read. -/
def bytesAt (path : List Char) : Run (Except FileError (List Char)) := do
  if path = ['-'] || device? (toText path) matches some (.stream 0) then takeInput
  else
    match device? (toText path) with
    | some _ =>
      match ← openSource path with
      | .error e => pure (.error e)
      | .ok c => do
        let sources := (← get).sources
        pure (.ok (((c.source.bind fun n => sources[n]?).map Source.rest).getD []))
    | none => pure (((← get).files.readBytes (toText path)).map charsOf)

/-- The bytes at some paths, each with its path. What cannot be read is reported. -/
def bytesAtAll (name : String) (unreadable : List Char → FileError → List Char) :
    List (List Char) → Run (List (List Char × List Char) × Bool)
  | [] => pure ([], true)
  | path :: paths => do
    match ← bytesAt path with
    | .ok bytes =>
      let (rest, whole) ← bytesAtAll name unreadable paths
      pure ((path, bytes) :: rest, whole)
    | .error e => do
      report name (unreadable path e)
      let (rest, _) ← bytesAtAll name unreadable paths
      pure (rest, false)

/-- A path that cannot be read, as most utilities say it. -/
def plainFault (path : List Char) (e : FileError) : List Char :=
  titleOf path ++ bytesOf (": " ++ e.reason)

/-- Shows what is at some paths after a change to all of it. -/
def filter (name : String) (change : List Char → List Char) (paths : List (List Char)) :
    Run Nat := do
  let (texts, whole) ← bytesAtAll name plainFault paths
  write (change (texts.flatMap Prod.snd))
  pure (if whole then 0 else 1)

/-- The lines of a text with their line feeds; the current one has begun with `line`, in
reverse. -/
def wholeLines (line : List Char) : List Char → List (List Char)
  | [] => if line.isEmpty then [] else [line.reverse]
  | c :: r => if c = '\n' then (c :: line).reverse :: wholeLines [] r else wholeLines (c :: line) r

/-- A line without its line feed. -/
def withoutFeed (line : List Char) : List Char :=
  if line.getLast? == some '\n' then line.dropLast else line

/-- The lines of a text without their line feeds. -/
def plainLines (s : List Char) : List (List Char) := (wholeLines [] s).map withoutFeed

/-- Lines with line feeds. -/
def ofLines (ls : List (List Char)) : List Char := ls.flatMap (· ++ ['\n'])

/-- A number with blanks in front of it, so many characters wide at least. -/
def rightAligned (width : Nat) (s : List Char) : List Char :=
  List.replicate (width - s.length) ' ' ++ s

/-- The number that digits make, if there are nothing but digits. -/
def digits? (s : List Char) : Option Nat :=
  if !s.isEmpty && s.all Char.isDigit then some (Nat.ofDigitChars 10 s 0) else none

end Utility
end Shell
end Autograder
