/-
# Variables, arguments and options

The built-in commands that set and show what a shell keeps: its variables, its arguments, its
options and its aliases, and what is read into variables.
-/

import Autograder.Shell.Builtin.Basic

namespace Autograder
namespace Shell
namespace Builtin

/-- Declares variables, with a value if one is given. With `-p` or without names, it shows those that
are declared so already. -/
def declare (start : String) (isSo : Variable → Bool) (make : Variable → Variable)
    (args : List (List Char)) : Run Nat := do
  let (os, args) ← switches "p" "" args
  if isOn 'p' os || args.isEmpty then
    showVariables start ((← get).vars.filter isSo)
  else
    for a in args do
      let (name, value) := splitAssignment a
      checkName name
      match value with
      | some v => setVariable name v false
      | none => pure ()
      let old := ((← get).var? name).getD ⟨name, none, false, false⟩
      modify fun m => { m with vars := replaceVariable (make old) m.vars }
  pure 0

/-- Makes variables known to the programs that are started. -/
def exportThem : List (List Char) → Run Nat :=
  declare "export " Variable.exported fun v => { v with exported := true }

/-- Fixes the values of variables. -/
def fixThem : List (List Char) → Run Nat :=
  declare "readonly " Variable.fixed fun v => { v with fixed := true }

/-- What the current function has to leave as it was, with something more. -/
def keepForLater (change : Frame → Frame) (m : Machine) : Machine :=
  match m.frames with
  | f :: fs => { m with frames := change f :: fs }
  | [] => m

/-- Makes variables those of the current function, with a value if one is given. A dash stands for
the options. -/
def ownThem (args : List (List Char)) : Run Nat := do
  if (← get).frames.isEmpty then giveUp (bytesOf "not in a function")
  let (_, args) ← switches "" "" args
  for a in args do
    if a = ['-'] then
      modify fun m =>
        keepForLater (fun f => { f with options := some (f.options.getD m.options) }) m
    else
      let (name, value) := splitAssignment a
      checkName name
      let old := (← get).var? name
      if old.any Variable.fixed then giveUp (name ++ bytesOf ": is read only")
      let isNew (f : Frame) : Bool := f.vars.all fun v => v.1 != name
      modify (keepForLater fun f => if isNew f then { f with vars := (name, old) :: f.vars } else f)
      match value with
      | some v => setVariable name v false
      | none => pure ()
  pure 0

/-- Forgets variables, or functions. -/
def forget (args : List (List Char)) : Run Nat := do
  let (os, names) ← switches "vf" "" args
  for name in names do
    if (os.getLast?.map Prod.fst) == some 'f' then
      modify fun m => { m with functions := m.functions.filter fun f => f.name != name }
    else
      checkName name
      if ((← get).var? name).any Variable.fixed then giveUp (name ++ bytesOf ": is read only")
      modify fun m => { m with vars := m.vars.filter fun v => v.name != name }
  pure 0

/-- Drops arguments. -/
def shift (args : List (List Char)) : Run Nat := do
  let n ← numberOr 1 args
  let m ← get
  if m.arguments.length < n then giveUp (bytesOf "can't shift that many")
  else do
    set { m with
      arguments := m.arguments.drop n
      optionWord := 1
      optionPlace := none }
    pure 0

/-- The options that have names, and their letters, in the order in which they are shown. -/
def optionNames : List (String × Char) :=
  [("errexit", 'e'), ("noglob", 'f'), ("ignoreeof", 'I'), ("interactive", 'i'), ("monitor", 'm'),
    ("noexec", 'n'), ("stdin", 's'), ("xtrace", 'x'), ("verbose", 'v'), ("vi", 'V'),
    ("emacs", 'E'), ("noclobber", 'C'), ("allexport", 'a'), ("notify", 'b'), ("nounset", 'u'),
    ("privileged", 'p'), ("nolog", 'l'), ("debug", 'd')]

/-- Switches an option on or off. -/
def switchOption (on : Bool) (letter : Char) : Run Unit :=
  modify fun m =>
    let others := m.options.filter (· != letter)
    { m with options := if on then letter :: others else others }

/-- Shows all options: each with its state, or as the command that sets it. -/
def showOptions (asCommands : Bool) : Run Unit := do
  let m ← get
  unless asCommands do writeLine (bytesOf "Current option settings")
  for (name, letter) in optionNames do
    let padding := List.replicate (16 - name.length) ' '
    if asCommands then
      writeLine (bytesOf ("set " ++ (if m.has letter then "-" else "+") ++ "o " ++ name))
    else
      writeLine (bytesOf name ++ padding ++ bytesOf (if m.has letter then "on" else "off"))

/-- Switches letters on or off. The letter for named options takes a name from the arguments; those
of `more` have a meaning of their own, which is left to the caller. -/
def setLetters (on : Bool) (more : String) : List Char → List (List Char) → Run (List (List Char))
  | [], args => pure args
  | c :: cs, args => do
    if c = 'o' then
      match args with
      | [] => do
        showOptions (!on)
        setLetters on more cs []
      | name :: args => do
        match optionNames.find? fun o => o.1.toList == name with
        | some (_, letter) => switchOption on letter
        | none => giveUp (bytesOf "Illegal option -o " ++ name)
        setLetters on more cs args
    else if more.toList.contains c then setLetters on more cs args
    else if optionNames.any fun o => o.2 == c && c != 'l' && c != 'd' then do
      switchOption on c
      setLetters on more cs args
    else illegalOption c

/-- Sets the options at the start of some arguments, and returns what follows them. -/
def setOptionsUpTo (more : String) : Nat → List (List Char) → Run (List (List Char))
  | 0, args => pure args
  | fuel + 1, args =>
    match args with
    | ('-' :: c :: cs) :: args =>
      if c = '-' && cs.isEmpty then pure (['-', '-'] :: args)
      else do
        let args ← setLetters true more (c :: cs) args
        setOptionsUpTo more fuel args
    | ('+' :: cs) :: args => do
      let args ← setLetters false more cs args
      setOptionsUpTo more fuel args
    | args => pure args

/-- Sets options and arguments, or shows all variables. -/
def setThem (args : List (List Char)) : Run Nat := do
  if args.isEmpty then
    showVariables "" ((← get).vars.filter fun v => v.value.isSome)
  else
    let setArguments (args : List (List Char)) : Run Unit :=
      modify fun m => { m with arguments := args, optionWord := 1, optionPlace := none }
    match ← setOptionsUpTo "" (args.length + 1) args with
    | [] => pure ()
    | ['-', '-'] :: args => setArguments args
    | ['-'] :: args => do
      switchOption false 'x'
      switchOption false 'v'
      unless args.isEmpty do setArguments args
    | args => setArguments args
  pure 0

/-- What `getopts` finds in the next argument: the letter, its value if it has one, the number of the
next argument, and the place in the current one if more letters follow. -/
structure Found where
  letter : Char
  value : Option (List Char)
  word : Nat
  place : Option Nat

/-- The letter of an option is known, and whether it has a value. -/
def lookUpLetter (c : Char) : List Char → Option Bool
  | [] => none
  | [d] => if d = c then some false else none
  | d :: ':' :: r => if d = c then some true else lookUpLetter c r
  | d :: e :: r => if d = c then some false else lookUpLetter c (e :: r)

/-- The characters of the current argument that `getopts` has not looked at, if there are any, and
the number of the argument after it. -/
def lettersLeft (args : List (List Char)) (word : Nat) (place : Option Nat) :
    Option (List Char) × Nat :=
  let current := place.bind fun n => (args[word - 2]?).map (List.drop n)
  match current.filter (!·.isEmpty) with
  | some letters => (some letters, word)
  | none =>
    match args[word - 1]? with
    | some ('-' :: c :: cs) =>
      if c = '-' && cs.isEmpty then (none, word + 1) else (some (c :: cs), word + 1)
    | _ => (none, word)

/-- Finds the next option in some arguments. -/
def nextOption (known : List Char) (args : List (List Char)) : Run (Option Found × Nat) := do
  let m ← get
  let quiet := known.head? == some ':'
  match lettersLeft args m.optionWord m.optionPlace with
  | (none, word) | (some [], word) => pure (none, word)
  | (some (c :: cs), word) => do
    let place := if cs.isEmpty then none
      else some (((args[word - 2]?).getD []).length - cs.length)
    match if c = ':' then none else lookUpLetter c known with
    | none =>
      if quiet then pure (some ⟨'?', some [c], word, place⟩, word)
      else do
        writeError (bytesOf "Illegal option -" ++ [c])
        pure (some ⟨'?', none, word, place⟩, word)
    | some false => pure (some ⟨c, some [], word, place⟩, word)
    | some true =>
      match cs, args[word - 1]? with
      | [], some value => pure (some ⟨c, some value, word + 1, none⟩, word)
      | [], none =>
        if quiet then pure (some ⟨':', some [c], word, none⟩, word)
        else do
          writeError (bytesOf "No arg for -" ++ c :: bytesOf " option")
          pure (some ⟨'?', none, word, none⟩, word)
      | cs, _ => pure (some ⟨c, some cs, word, none⟩, word)

/-- Sets a variable to the next option among some arguments, and fails at their end. -/
def getOption (args : List (List Char)) : Run Nat := do
  match args with
  | known :: name :: args => do
    let m ← get
    let args := if args.isEmpty then m.arguments else args
    let (found, end_) ← nextOption known args
    let word := match found with
      | some f => f.word
      | none => end_
    match found with
    | some f =>
      match f.value with
      | some v => setVariable "OPTARG".toList v false
      | none => modify fun m => { m with vars := m.vars.filter fun v => v.name != "OPTARG".toList }
    | none => pure ()
    setVariable "OPTIND".toList (decimal word) false
    checkName name
    setVariable name [(found.map Found.letter).getD '?'] false
    modify fun m => { m with optionWord := word, optionPlace := found.bind Found.place }
    pure (if found.isSome then 0 else 1)
  | _ => giveUp (bytesOf "Usage: getopts optstring var [arg...]")

/-- The next line, where a backslash can quote a character and continue a line. Each character comes
with whether it was not quoted. `done` comes before, in reverse. -/
def takeLine (raw : Bool) (done : Pattern) : List Char → Pattern × List Char × Bool
  | [] => (done.reverse, [], false)
  | '\n' :: r => (done.reverse, r, true)
  | '\\' :: c :: r =>
    if raw then takeLine raw (('\\', true) :: done) (c :: r)
    else if c = '\n' then takeLine raw done r
    else takeLine raw ((c, false) :: done) r
  | '\x00' :: r => takeLine raw done r
  | c :: r => takeLine raw ((c, true) :: done) r

/-- The fields of a line for so many variables: the last has all that is left. -/
def cutLine (separators : List Char) : Nat → Pattern → List (List Char)
  | 0, _ => []
  | n + 1, line =>
    let isBlankHere (x : Char × Bool) : Bool :=
      x.2 && separators.contains x.1 && (isBlank x.1 || x.1 == '\n')
    let isCut (x : Char × Bool) : Bool := x.2 && separators.contains x.1
    let line := line.dropWhile isBlankHere
    let field := line.takeWhile (!isCut ·)
    let rest := (line.drop field.length).dropWhile isBlankHere
    let rest := match rest with
      | x :: r => if isCut x && !isBlankHere x then r.dropWhile isBlankHere else x :: r
      | [] => []
    if n = 0 && !rest.isEmpty then
      [((line.reverse.dropWhile isBlankHere).reverse).map Prod.fst]
    else field.map Prod.fst :: cutLine separators n rest

/-- What a stream is read from. -/
def sourceOf (stream : Nat) : Run (Except FileError (Nat × Source)) := do
  let m ← get
  let number := (m.channels.lookup stream).bind Channel.source
  match number.bind fun n => (m.sources[n]?).map fun s => (n, s) with
  | some (n, s) =>
    match s.fault with
    | some e => pure (.error e)
    | none => pure (.ok (n, s))
  | none => pure (.error .badDescriptor)

/-- Leaves the rest of a source to be read. Who has seen its end had to wait for it. -/
def leave (number : Nat) (s : Source) (rest : List Char) (sawEnd : Bool) : Run Unit := do
  modify fun m => { m with sources := m.sources.setIfInBounds number { s with rest := rest } }
  if sawEnd then waitUntil s.ending

/-- Reads a line into variables. It fails at the end of what there is to read. -/
def read (args : List (List Char)) : Run Nat := do
  let (os, names) ← switches "r" "p" args
  if names.isEmpty then giveUp (bytesOf "arg count")
  let (line, whole) ← match ← sourceOf 0 with
    | .error _ => pure ([], false)
    | .ok (number, s) => do
      let (line, rest, whole) := takeLine (isOn 'r' os) [] s.rest
      leave number s rest (!whole)
      pure (line, whole)
  for (name, value) in names.zip (cutLine (separators (← get)) names.length line) do
    checkName name
    setVariable name value false
  pure (if whole then 0 else 1)

/-- Gives commands other names, or shows these. -/
def nameCommands (args : List (List Char)) : Run Nat := do
  let display (a : List Char × List Char) : Run Unit := writeLine (a.1 ++ '=' :: inQuotes a.2)
  let mut status := 0
  if args.isEmpty then
    for a in (← get).aliases do display a
  for a in args do
    match splitAssignment a, (← get).aliases.find? fun b => b.1 == a with
    | (name, some value), _ =>
      modify fun m => { m with
        aliases := m.aliases.filter (fun b => b.1 != name) ++ [(name, value)] }
    | _, some b => display b
    | _, none => do
      writeError (bytesOf "alias: " ++ a ++ bytesOf " not found")
      status := 1
  pure status

/-- Forgets other names of commands. -/
def unnameCommands (args : List (List Char)) : Run Nat := do
  let (os, names) ← switches "a" "" args
  let mut status := 0
  if isOn 'a' os then modify fun m => { m with aliases := [] }
  for name in names do
    if (← get).aliases.any fun b => b.1 == name then
      modify fun m => { m with aliases := m.aliases.filter fun b => b.1 != name }
    else
      writeError (bytesOf "unalias: " ++ name ++ bytesOf " not found")
      status := 1
  pure status

end Builtin
end Shell
end Autograder
