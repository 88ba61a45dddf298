/-
# Editing files

The utility that runs an editing program on the lines of files, and shows what comes of them or puts
it in their place.
-/

import Autograder.Shell.Editing.Reader
import Autograder.Shell.Editing.Run
import Autograder.Shell.Utility.Basic

namespace Autograder
namespace Shell
namespace Utility

/-- The lines of a text of a file. -/
def inputLines (file : List Char) (s : List Char) : List Editing.InputLine :=
  (wholeLines [] s).map fun line => ⟨withoutFeed line, line.getLast? == some '\n', file⟩

/-- Arguments without the option to put what comes of a file in its place, and the ending that it
gives to the file as it was. -/
def withoutInPlace : List (List Char) → List (List Char) × Option (List Char)
  | [] => ([], none)
  | ['-', '-'] :: args => (['-', '-'] :: args, none)
  | a :: args =>
    let (rest, ending) := withoutInPlace args
    match a with
    | '-' :: '-' :: word =>
      if (bytesOf "in-place").isPrefixOf word then (rest, some (word.drop 9)) else (a :: rest, ending)
    | '-' :: letters =>
      let before := letters.takeWhile fun c => c != 'i' && c != 'e' && c != 'f' && c != 'l'
      match letters.drop before.length with
      | 'i' :: ending =>
        (if before.isEmpty then rest else ('-' :: before) :: rest, some ending)
      | _ => (a :: rest, ending)
    | _ => (a :: rest, ending)

/-- Texts of a program, where one that ends with a backslash goes on with the next. -/
def joinedTexts : List (List Char) → List (List Char)
  | s :: t :: rest =>
    if s.getLast? == some '\\' then
      match joinedTexts (t :: rest) with
      | u :: us => (s ++ '\n' :: u) :: us
      | [] => [s]
    else s :: joinedTexts (t :: rest)
  | ss => ss

/-- The text of a program that an option gives, or that stands in the file which it names. -/
def programText (letter : Char) (value : List Char) :
    Run (Except (List Char) (List (List Char))) := do
  match letter with
  | 'e' => pure (.ok [value])
  | 'f' =>
    match ← bytesAt value with
    | .ok s => pure (.ok [withoutFeed s])
    | .error e =>
      pure (.error (bytesOf "couldn't open file " ++ value ++ bytesOf (": " ++ e.reason)))
  | _ => pure (.ok [])

/-- The texts of a program that some options give. -/
def programTexts : List (Char × List Char) → Run (Except (List Char) (List (List Char)))
  | [] => pure (.ok [])
  | (letter, value) :: rest => do
    match ← programText letter value, ← programTexts rest with
    | .ok texts, .ok more => pure (.ok (texts ++ more))
    | .error e, _ | _, .error e => pure (.error e)

/-- The lines of some files. What cannot be read is reported. -/
def linesOfAll : List (List Char) → Run (List (List Editing.InputLine) × Bool)
  | [] => pure ([], true)
  | path :: paths => do
    let text ← if path = ['-'] then do
        pure ((← Builtin.sourceOf 0).map fun s => s.2.rest)
      else bytesAt path
    match text with
    | .ok s => do
      let (rest, whole) ← linesOfAll paths
      pure (inputLines path s :: rest, whole)
    | .error e => do
      report "sed" (if e == .isADirectory then
          bytesOf "read error on " ++ path ++ bytesOf (": " ++ e.reason)
        else bytesOf "can't read " ++ path ++ bytesOf (": " ++ e.reason))
      let (rest, _) ← linesOfAll paths
      pure (rest, false)

/-- Writes all that a program has written to files. -/
def writeEdited (sinks : List (List Char × Sink)) (written : List (List Char × List Char)) :
    Run Unit := do
  for (path, s) in written.reverse do
    match sinks.lookup path with
    | some sink => writeTo sink s
    | none => pure ()

/-- Runs a program on some inputs, one after the other, and does something with what comes of
each. -/
def editEach (job : Editing.Job) (sinks : List (List Char × Sink))
    (use : List Char → List Char → Run Unit) (held : List Char) :
    List (List Editing.InputLine) → Run Nat
  | [] => pure 0
  | input :: inputs => do
    let (e, status?) := Editing.edit job held input
    use ((input.head?.map Editing.InputLine.file).getD []) e.output
    writeEdited sinks e.written
    if input.any (fun l => l.file == ['-']) then
      match ← Builtin.sourceOf 0 with
      | .ok (number, s) => Builtin.leave number s [] e.input.isEmpty
      | .error _ => pure ()
    match status? with
    | none => do
      waitUntil (← get).limit
      pure 0
    | some 0 => if e.input.isEmpty then editEach job sinks use e.held inputs else pure 0
    | some n => pure n

/-- Puts what came of a file in its place, and the file as it was at its path with an ending. -/
def replaceFile (ending path s : List Char) : Run Unit := do
  let fs := (← get).files
  match fs.find (toText path) with
  | .ok (p, .file bytes executable) =>
    let kept := if ending.isEmpty then fs
      else
        let name := if ending.contains '*' then
            ending.flatMap fun c => if c = '*' then lastNameOf path else [c]
          else lastNameOf path ++ ending
        fs.setNode (toText name :: p.tail) (.file bytes executable)
    modify fun m => { m with files := kept.putBytes p ⟨(toBytes s).toArray⟩ }
  | _ => pure ()
where
  /-- The last name of a path. -/
  lastNameOf (path : List Char) : List Char :=
    bytesOf ((Path.names (toText path)).getLast?.getD "")

/-- Runs an editing program on the lines of files. -/
def sed (args : List (List Char)) : Run Nat := do
  let (args, inPlace) := withoutInPlace args
  let words := [("quiet", 'n'), ("silent", 'n'), ("expression", 'e'), ("file", 'f'),
    ("regexp-extended", 'E'), ("separate", 's'), ("posix", 'p'), ("unbuffered", 'u'),
    ("null-data", 'z'), ("line-length", 'l')]
  let usage : Run Nat := do
    writeError (bytesOf
      "Usage: sed [OPTION]... \x7bscript-only-if-no-other-script\x7d [input-file]...")
    pure 1
  match (OptionSpec.mk "nErsuzp" "efl" words 1 false).readUpTo args.length args with
  | .error message => do
    report "sed" message
    usage
  | .ok o => do
    let given := o.has 'e' || o.has 'f'
    if !given && o.operands.isEmpty then return (← usage)
    let texts ← if given then programTexts o.letters else pure (.ok (o.operands.take 1))
    let o := if given then o else { o with operands := o.operands.drop 1 }
    match texts with
    | .error message => do
      report "sed" message
      pure 1
    | .ok texts =>
      match Editing.readAll (o.has 'E' || o.has 'r') [] [] 0 (joinedTexts texts) with
      | .error (count, fault) => do
        report "sed" (bytesOf "-e expression #" ++ decimal count ++ bytesOf ", char " ++
          decimal fault.place ++ bytesOf (": " ++ fault.message))
        pure 1
      | .ok program =>
        match Editing.missingLabel? program with
        | some name => do
          report "sed" (bytesOf "can't find label for jump to `" ++ name ++ ['\''])
          pure 1
        | none => do
          let mut sinks := []
          for path in Editing.filesOf program do
            match ← openSink .overwrite path with
            | .ok c => sinks := sinks ++ c.sink.toList.map fun s => (path, s)
            | .error e => do
              report "sed" (bytesOf "couldn't open file " ++ path ++ bytesOf (": " ++ e.reason))
              return 4
          let (inputs, whole) ← linesOfAll o.orInput
          let fs := (← get).files
          let contents (path : List Char) : List Char :=
            ((fs.readBytes (toText path)).map charsOf).toOption.getD []
          let silent := o.has 'n' || (texts.headD []).take 3 = ['#', 'n', '\n']
          let job : Editing.Job := ⟨program, silent, contents⟩
          let status ← match inPlace with
            | some ending => editEach job sinks (replaceFile ending) [] inputs
            | none =>
              let inputs := if o.has 's' then inputs else [inputs.flatten]
              editEach job sinks (fun _ s => write s) [] inputs
          pure (if status = 0 && !whole then 2 else status)

end Utility
end Shell
end Autograder
