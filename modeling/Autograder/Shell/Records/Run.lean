/-
# Running programs on records

A record is a line, if nothing else is said, and its fields stand between blanks. What a program
prints can go to files and to commands, and lines can be read from these. Loops and calls take time,
so that a program that does not end is stopped.
-/

import Autograder.Shell.Records.Reader
import Autograder.Shell.Records.Value
import Autograder.Shell.Utility.Basic

namespace Autograder
namespace Shell
namespace Records

/-- What a name stands for. -/
inductive Cell where
  | value (v : Value)
  /-- A table by its number. -/
  | table (number : Nat)

/-- Where what is printed goes, once it is open. -/
inductive Outlet where
  | stream (number : Nat)
  | sink (s : Sink)
  /-- A command that gets the text when it is closed. -/
  | command (text : List Char)

/-- The state of a program. -/
structure State where
  program : Program
  globals : List (List Char × Cell)
  locals : List (List Char × Cell)
  tables : Array Table
  record : List Char
  fields : Array Value
  /-- What is left of the file that is being read. -/
  input : Option (List Char)
  /-- The arguments that have not been looked at. -/
  paths : List (List Char)
  /-- A file has been read. -/
  opened : Bool
  /-- What is left of the files and commands that lines are read from. -/
  sources : List (List Char × List Char)
  outlets : List (List Char × Outlet)
  /-- What has been printed but is not written yet, the last first. -/
  pending : List (List Char)
  /-- The rules whose range has begun. -/
  ranges : List Nat
  status : Nat

/-- Why the run of a statement ends early. -/
inductive Leave where
  | loop
  | turn
  | record
  | program
  | call (v : Value)
  /-- The program cannot go on, with a message that tells where it stands or does not. -/
  | fault (located : Bool) (message : List Char)

/-- A step of a program. -/
abbrev Step := ExceptT Leave (StateT State Run)

/-- A step of the shell. -/
def ofShell {α : Type} (r : Run α) : Step α := ExceptT.lift (StateT.lift r)

/-- The time that a turn of a loop takes, in nanoseconds. -/
def turnTime : Nat := 1000

/-- A list with the value of a name replaced. -/
def withEntry {α : Type} (name : List Char) (a : α) (es : List (List Char × α)) :
    List (List Char × α) := (name, a) :: es.filter fun e => e.1 != name

/-- What a name stands for. -/
def cell? (name : List Char) : Step (Option Cell) := do
  let s ← get
  pure (s.locals.lookup name <|> s.globals.lookup name)

/-- Lets a name stand for something. -/
def setCell (name : List Char) (c : Cell) : Step Unit :=
  modify fun s =>
    if (s.locals.lookup name).isSome then { s with locals := withEntry name c s.locals }
    else { s with globals := withEntry name c s.globals }

/-- The value of a variable. -/
def valueOf (name : List Char) : Step Value := do
  match ← cell? name with
  | some (.value v) => pure v
  | _ => pure .nothing

/-- The number of the table that a name stands for. A new name stands for an empty one. -/
def tableOf (name : List Char) : Step Nat := do
  match ← cell? name with
  | some (.table n) => pure n
  | _ => do
    let n := (← get).tables.size
    modify fun s => { s with tables := s.tables.push .empty }
    setCell name (.table n)
    pure n

/-- A table by its number. -/
def tableAt (n : Nat) : Step Table := do pure ((← get).tables[n]?.getD .empty)

/-- Changes a table. -/
def changeTable (n : Nat) (change : Table → Table) : Step Unit :=
  modify fun s => { s with tables := s.tables.modify n change }

/-- A value as a text, where a variable has the format of numbers. -/
def textBy (formatVariable : String) (v : Value) : Step (List Char) := do
  match v with
  | .number _ => do
    let (format, letter) := formatOf (match ← valueOf formatVariable.toList with
      | .text s | .given s => s
      | _ => "%.6g".toList)
    pure (v.toText format letter)
  | v => pure (v.toText .none 'g')

/-- A value as a text. -/
def textOfValue (v : Value) : Step (List Char) := textBy "CONVFMT" v

/-- A text cut at some matches. -/
def cutAt (text : Array Char) (place : Nat) : List Regex.Match → List (List Char)
  | [] => [Regex.slice text place text.size]
  | m :: ms => Regex.slice text place m.start :: cutAt text m.finish ms

/-- A text cut at what a regular expression matches. -/
def splitByRegex (r : Regex) (s : List Char) : List (List Char) :=
  if s.isEmpty then []
  else
    let text := s.toArray
    cutAt text 0 ((r.allMatches text).filter fun m => m.start != m.finish)

/-- The words of a text. -/
def wordsOf (word : List Char) : List Char → List (List Char)
  | [] => if word.isEmpty then [] else [word.reverse]
  | c :: r =>
    if isSpace c then (if word.isEmpty then wordsOf [] r else word.reverse :: wordsOf [] r)
    else wordsOf (c :: word) r

/-- A text read as a regular expression, or as itself where it is none. -/
def regexOf (s : List Char) : Regex :=
  match Regex.read dialect s with
  | .ok r => r
  | .error _ => Regex.ofText dialect s

/-- The fields of a text, where a text says what stands between them. With `lines`, line feeds do as
well. -/
def splitBy (separator : List Char) (lines : Bool) (s : List Char) : List (List Char) :=
  match separator with
  | [] => s.map ([·])
  | [' '] => wordsOf [] s
  | [c] =>
    if s.isEmpty then []
    else (Builtin.splitAt c s).flatMap fun f => if lines then Builtin.splitAt '\n' f else [f]
  | separator => splitByRegex (regexOf separator) s

/-- Sets the number of fields. -/
def setCount (n : Nat) : Step Unit :=
  modify fun s => { s with
    globals := withEntry "NF".toList (.value (.number n.toFloat)) s.globals }

/-- Sets the record, and its fields. -/
def setRecord (text : List Char) : Step Unit := do
  let separator ← textOfValue (← valueOf "FS".toList)
  let lines := (← textOfValue (← valueOf "RS".toList)).isEmpty
  let fields := (splitBy separator lines text).map Value.given
  modify fun s => { s with record := text, fields := fields.toArray }
  setCount fields.length

/-- The record that the fields make. -/
def joinFields : Step Unit := do
  let separator ← textOfValue (← valueOf "OFS".toList)
  let texts ← (← get).fields.toList.mapM (textBy "OFMT")
  modify fun s => { s with record := separator.intercalate texts }

/-- Gives the record another number of fields. -/
def setFieldCount (n : Nat) : Step Unit := do
  modify fun s =>
    let kept := s.fields.extract 0 n
    { s with fields := kept ++ Array.replicate (n - kept.size) (.given []) }
  setCount n
  joinFields

/-- The value of a field; field 0 is the record. -/
def fieldAt (n : Nat) : Step Value := do
  let s ← get
  if n = 0 then pure (.given s.record) else pure (s.fields[n - 1]?.getD .nothing)

/-- The largest number that a field can have. -/
def maxField : Nat := 32767

/-- Sets a field. -/
def setField (n : Nat) (v : Value) : Step Unit := do
  if n = 0 then setRecord (← textOfValue v)
  else if maxField < n then throw (.fault true "field index too large".toList)
  else
    if (← get).fields.size < n then setFieldCount n
    modify fun s => { s with fields := s.fields.setIfInBounds (n - 1) v }
    joinFields

/-- Sets a variable. -/
def setVariable (name : List Char) (v : Value) : Step Unit := do
  if name = "NF".toList then setFieldCount v.toNumber.toUInt64.toNat
  else setCell name (.value v)

/-- The number of a field that a value gives. -/
def fieldNumber (v : Value) : Step Nat := do
  let x := v.toNumber
  let n := Nat.toDigits 10 x.abs.toUInt64.toNat
  if x < 0.0 then throw (.fault true ("negative field index $-".toList ++ n)) else pure x.toUInt64.toNat

/-- The key that some values make, and whether it is a number. -/
def keyOf (vs : List Value) : Step (List Char × Bool) := do
  match vs with
  | [.number x] => do pure (← textOfValue (.number x), true)
  | [v] => do pure (← textOfValue v, false)
  | vs => do
    let separator ← textOfValue (← valueOf "SUBSEP".toList)
    pure (separator.intercalate (← vs.mapM textOfValue), false)

/-- The first record of a text, and what follows it. -/
def takeRecord (separator s : List Char) : Option (List Char × List Char) :=
  match s, separator with
  | [], _ => none
  | s, [] =>
    let s := s.dropWhile (· == '\n')
    if s.isEmpty then none
    else
      let text := s.toArray
      let blank : Regex := .loop (.char '\n') 2 none
      match blank.find? text 0 with
      | some m => some (Regex.slice text 0 m.start, Regex.slice text m.finish text.size)
      | none => some ((s.reverse.dropWhile (· == '\n')).reverse, [])
  | s, [c] =>
    let record := s.takeWhile (· != c)
    some (record, s.drop (record.length + 1))
  | s, separator =>
    let text := s.toArray
    match (regexOf separator).find? text 0 with
    | some m =>
      if m.start = m.finish then some (s, [])
      else some (Regex.slice text 0 m.start, Regex.slice text m.finish text.size)
    | none => some (s, [])

/-- Adds one to a variable. -/
def increase (name : String) : Step Unit := do
  let n := (← valueOf name.toList).toNumber
  setCell name.toList (.value (.number (n + 1.0)))

/-- A path that cannot be opened. -/
def cannotOpen {α : Type} (path : List Char) (e : FileError) : Step α :=
  throw (.fault false (bytesOf "cannot open \"" ++ path ++ bytesOf ("\" (" ++ e.reason ++ ")")))

/-- An argument that sets a variable. -/
def setting? (s : List Char) : Option (List Char × List Char) :=
  match Builtin.splitAssignment s with
  | (name, some value) => if isName name then some (name, value) else none
  | _ => none

/-- Sets a variable to a text from outside. -/
def setFromOutside (name value : List Char) : Step Unit :=
  setVariable name (.given (unescape value.length value))

/-- Opens the next file that is to be read, if there is one. -/
def openNext : Nat → Step Bool
  | 0 => pure false
  | fuel + 1 => do
    match (← get).paths with
    | [] =>
      if (← get).opened then pure false
      else do
        let text ← match ← ofShell Utility.takeInput with
          | .ok s => pure s
          | .error _ => pure []
        modify fun s => { s with opened := true, input := some text }
        pure true
    | path :: paths => do
      modify fun s => { s with paths := paths }
      match path, setting? path with
      | [], _ => openNext fuel
      | _, some (name, value) => do
        setFromOutside name value
        openNext fuel
      | path, none => do
        match ← ofShell (Utility.bytesAt path) with
        | .error e => cannotOpen path e
        | .ok text => do
          modify fun s => { s with opened := true, input := some text }
          setCell "FILENAME".toList (.value (.text path))
          setCell "FNR".toList (.value (.number 0.0))
          pure true

/-- The next record of the files. -/
def nextRecord : Nat → Step (Option (List Char))
  | 0 => pure none
  | fuel + 1 => do
    let separator ← textOfValue (← valueOf "RS".toList)
    match (← get).input.bind (takeRecord separator) with
    | some (record, rest) => do
      modify fun s => { s with input := some rest }
      increase "NR"
      increase "FNR"
      pure (some record)
    | none => do
      modify fun s => { s with input := none }
      if ← openNext ((← get).paths.length + 1) then nextRecord fuel else pure none

/-- The next record of all files that there are. -/
def nextOfAll : Step (Option (List Char)) := do nextRecord ((← get).paths.length + 2)

/-- Writes what has been printed so far. -/
def flush : Step Unit := do
  let pending := (← get).pending
  modify fun s => { s with pending := [] }
  ofShell (write pending.reverse.flatten)

/-- The process goes on as a shell with a command. -/
def becomeShell (e : Engine) (command : List Char) : Run Unit := do
  match e.find (← get) "sh".toList with
  | .ok act => act ["-c".toList, command]
  | .error _ => setStatus 127

/-- Runs a command, which has a text to read. -/
def runCommand (e : Engine) (command input : List Char) : Run Unit := do
  let channels := (← get).channels
  let n ← addSource ⟨input, 0, false, none⟩
  modify fun m => { m with channels := setChannel 0 ⟨some n, none⟩ m.channels }
  andFinally (inSubshell e.run (becomeShell e command)) (modify fun m => { m with channels := channels })

/-- What a command prints. -/
def printedByCommand (e : Engine) (command : List Char) : Run (List Char) :=
  capture e.run (becomeShell e command)

/-- Ends what is printed to a file or a command. -/
def closeOutlet (e : Engine) (name : List Char) : Step Bool := do
  match (← get).outlets.lookup name with
  | none => pure false
  | some outlet => do
    modify fun s => { s with outlets := s.outlets.filter fun o => o.1 != name }
    match outlet with
    | .command text => ofShell (runCommand e name text)
    | _ => pure ()
    pure true

/-- Opens a file or a command that something is to be printed to. -/
def openOutlet (direction : Direction) (name : List Char) : Step Outlet := do
  match direction, String.ofList name with
  | .command, _ => do
    flush
    pure (.command [])
  | _, "/dev/stdout" | _, "-" => pure (.stream 1)
  | _, "/dev/stderr" => pure (.stream 2)
  | direction, _ => do
    let kind := if direction = .append then RedirectKind.append else .overwrite
    match ← ofShell (openSink kind name) with
    | .ok c => pure (.sink (c.sink.getD .nowhere))
    | .error err =>
      throw (.fault false (bytesOf "cannot open \"" ++ name ++
        bytesOf ("\" for output (" ++ err.reason ++ ")")))

/-- Prints a text to where it is to go. -/
def emit (sink : Option (Direction × List Char)) (text : List Char) : Step Unit := do
  match sink with
  | none => modify fun s => { s with pending := text :: s.pending }
  | some (direction, name) => do
    let outlet ← match (← get).outlets.lookup name with
      | some o => pure o
      | none => openOutlet direction name
    let outlet ← match outlet with
      | .stream n => do
        if n = 1 then modify fun s => { s with pending := text :: s.pending }
        else ofShell (writeOn n text)
        pure outlet
      | .sink s => do
        ofShell (writeTo s text)
        pure outlet
      | .command before => pure (.command (before ++ text))
    modify fun s => { s with outlets := withEntry name outlet s.outlets }

/-- The number in a value, without its places. -/
def wholeOf (v : Value) : Int :=
  let x := v.toNumber
  let n : Int := x.abs.toUInt64.toNat
  if x < 0.0 then -n else n

/-- A value in a format. -/
def formatValue (f : Printing.Format) (letter : Char) (v : Value) : Step (List Char) := do
  match letter with
  | 's' => do pure (f.text (← textOfValue v))
  | 'c' =>
    match v with
    | .number x => pure (f.pad [Char.ofNat (x.toUInt64.toNat % 256)])
    | v => do pure (f.pad ((← textOfValue v).take 1))
  | letter =>
    if "diouxX".toList.contains letter then pure (f.whole letter (wholeOf v))
    else pure (f.real letter v.toNumber)

/-- A format, what has come of it so far, and the values that are left. -/
structure Formatting where
  rest : List Char
  text : List Char
  values : List Value
  /-- What is wrong with it. -/
  fault : Option String

namespace Formatting

/-- The next of the values. -/
def next (f : Formatting) : Value × Formatting :=
  match f.values with
  | v :: vs => (v, { f with values := vs })
  | [] => (.nothing, { f with fault := some "not enough arguments passed to " })

/-- A width or a precision: digits, or an asterisk for the next value. -/
def amount (f : Formatting) : Int × Formatting :=
  match f.rest with
  | '*' :: r =>
    let (v, f) := { f with rest := r }.next
    (wholeOf v, f)
  | s =>
    let ds := s.takeWhile Char.isDigit
    (Nat.ofDigitChars 10 ds 0, { f with rest := s.drop ds.length })

/-- The value after a percent sign in its format. -/
def convert (f : Formatting) : Step Formatting := do
  let (format, r) := Printing.Format.none.flags f.rest
  let (width, f) := { f with rest := r }.amount
  let format := { format with width := width.natAbs, left := format.left || width < 0 }
  let (format, f) := match f.rest with
    | '.' :: r =>
      let (n, f) := { f with rest := r }.amount
      ({ format with precision := if n < 0 then none else some n.toNat }, f)
    | _ => (format, f)
  match f.rest.dropWhile fun c => c == 'l' || c == 'h' with
  | letter :: r =>
    if "diouxXcsfFeEgG%".toList.contains letter then
      let (v, f) := { f with rest := r }.next
      if f.fault.isSome then pure f
      else
        let here ← if letter = '%' then pure ['%'] else formatValue format letter v
        pure { f with text := f.text ++ here }
    else pure { f with fault := some "improper conversion(number 1) in " }
  | [] => pure { f with fault := some "improper conversion(number 1) in " }

/-- All of the format. -/
def all : Nat → Formatting → Step Formatting
  | 0, f => pure f
  | fuel + 1, f => do
    match f.rest with
    | [] => pure f
    | '%' :: '%' :: r => all fuel { f with rest := r, text := f.text ++ ['%'] }
    | '%' :: r => do
      let f ← { f with rest := r }.convert
      if f.fault.isSome then pure f else all fuel f
    | c :: r => all fuel { f with rest := r, text := f.text ++ [c] }

end Formatting

/-- Values in the format that the first of them is, and what is wrong with them for a function. -/
def formatted (function : String) (vs : List Value) :
    Step (List Char × Option (List Char)) := do
  let format ← textOfValue (vs.headD .nothing)
  let f ← Formatting.all (format.length + 1) ⟨format, [], vs.drop 1, none⟩
  let fault := f.fault.map fun message =>
    bytesOf (message ++ function ++ "(\"") ++ format ++ bytesOf "\")"
  pure (f.text, fault)

/-- The program cannot go on if something is wrong. -/
def failIf (message : Option (List Char)) : Step Unit :=
  match message with
  | some s => throw (.fault true s)
  | none => pure ()

/-- What comes of an operator between two values. -/
def operate (op : Operator) (a b : Value) : Step Value := do
  let x := a.toNumber
  let y := b.toNumber
  let compare (numbers : Float → Float → Bool) (texts : List Char → List Char → Bool) :
      Step Value := do
    match a.number?, b.number? with
    | some x, some y => pure (.ofBool (numbers x y))
    | _, _ => do pure (.ofBool (texts (← textOfValue a) (← textOfValue b)))
  match op with
  | .add => pure (.number (x + y))
  | .subtract => pure (.number (x - y))
  | .multiply => pure (.number (x * y))
  | .divide => pure (.number (x / y))
  | .remainder =>
    let q := x / y
    let whole := if q < 0.0 then q.ceil else q.floor
    pure (.number (x - y * whole))
  | .power => pure (.number (Float.pow x y))
  | .join => do pure (.text ((← textOfValue a) ++ (← textOfValue b)))
  | .less => compare (· < ·) fun s t => decide (s < t)
  | .lessOrEqual => compare (· ≤ ·) fun s t => !decide (t < s)
  | .equal => compare (· == ·) (· == ·)
  | .notEqual => compare (· != ·) (· != ·)
  | .greater => compare (· > ·) fun s t => decide (t < s)
  | .greaterOrEqual => compare (· ≥ ·) fun s t => !decide (s < t)

/-- What stands instead of a match: an ampersand is the match itself, unless a backslash quotes
it. -/
def replacement (found : List Char) : List Char → List Char
  | '\\' :: '&' :: r => '&' :: replacement found r
  | '\\' :: '\\' :: '&' :: r => '\\' :: (found ++ replacement found r)
  | '&' :: r => found ++ replacement found r
  | c :: r => c :: replacement found r
  | [] => []

/-- A text with matches replaced. -/
def replaceMatches (text : Array Char) (new : List Char) (place : Nat) :
    List Regex.Match → List Char
  | [] => Regex.slice text place text.size
  | m :: ms =>
    Regex.slice text place m.start ++ replacement (Regex.slice text m.start m.finish) new ++
      replaceMatches text new m.finish ms

/-- A part of a text, from a character on, which is counted from 1; possibly so many characters. -/
def part (s : List Char) (first : Int) (length : Option Int) : List Char :=
  let rest := s.drop (first - 1).toNat
  match length with
  | none => rest
  | some n => rest.take (if first < 1 then n - first else n).toNat

/-- The place where a text stands in another one, counted from 1; 0 if it does not. -/
def placeIn (part : List Char) : Nat → List Char → Nat
  | place, s =>
    if part.isPrefixOf s then place
    else
      match s with
      | [] => 0
      | _ :: r => placeIn part (place + 1) r

/-- The value of a function of numbers. -/
def calculate? (function : String) (x y : Float) : Option Float :=
  match function with
  | "int" => some (if x < 0.0 then x.ceil else x.floor)
  | "sqrt" => some x.sqrt
  | "exp" => some x.exp
  | "log" => some x.log
  | "sin" => some x.sin
  | "cos" => some x.cos
  | "atan2" => some (Float.atan2 x y)
  | "rand" => some 0.237788
  | "srand" => some 0.0
  | "systime" => some 1700000000.0
  | _ => none

/-- The name of what is called, where an expression is only a name. -/
def Expr.name? : Expr → Option (List Char)
  | .variable s => some s
  | _ => none

/-- The regular expression that an expression is. -/
def Expr.regex? : Expr → Option Regex
  | .regex r => some r
  | _ => none

mutual

/-- The value of an expression. -/
def eval (e : Engine) : Nat → Expr → Step Value
  | 0, _ => throw (.fault true "function call nesting too deep".toList)
  | fuel + 1, expr =>
    match expr with
    | .number x => pure (.number x)
    | .text s => pure (.text s)
    | .regex r => do pure (.ofBool (r.find? (← get).record.toArray 0).isSome)
    | .several es => do pure (.text (← keyOf (← evalAll e fuel es)).1)
    | .variable name => valueOf name
    | .field place => do fieldAt (← fieldNumber (← eval e fuel place))
    | .item table keys => do
      let (key, isNumber) ← keyOf (← evalAll e fuel keys)
      let n ← tableOf table
      changeTable n (·.use key isNumber)
      pure ((← tableAt n).get key)
    | .assign target op value => do
      let v ← eval e fuel value
      let v ← match op with
        | none => pure v
        | some op => do operate op (← eval e fuel target) v
      assign e fuel target v
      pure v
    | .count target up before => do
      let x := (← eval e fuel target).toNumber
      let y := if up then x + 1.0 else x - 1.0
      assign e fuel target (.number y)
      pure (.number (if before then y else x))
    | .negate a => do pure (.number (-(← eval e fuel a).toNumber))
    | .positive a => do pure (.number (← eval e fuel a).toNumber)
    | .not a => do pure (.ofBool !(← eval e fuel a).isTrue)
    | .operate op a b => do
      let x ← eval e fuel a
      operate op x (← eval e fuel b)
    | .both a b => do
      if (← eval e fuel a).isTrue then pure (.ofBool (← eval e fuel b).isTrue)
      else pure (.ofBool false)
    | .either a b => do
      if (← eval e fuel a).isTrue then pure (.ofBool true)
      else pure (.ofBool (← eval e fuel b).isTrue)
    | .choice test yes no => do
      if (← eval e fuel test).isTrue then eval e fuel yes else eval e fuel no
    | .isMatch negated a pattern => do
      let s ← textOfValue (← eval e fuel a)
      let r ← regexBy e fuel pattern
      pure (.ofBool ((r.find? s.toArray 0).isSome != negated))
    | .isKey keys table => do
      let (key, _) ← keyOf (← evalAll e fuel keys)
      pure (.ofBool ((← tableAt (← tableOf table)).has key))
    | .call function args => do
      match (← get).program.functions.find? fun f => f.name == function with
      | none => pure .nothing
      | some f => do
        let cells ← argumentCells e fuel args
        let missing := f.parameters.drop cells.length
        let outside := (← get).locals
        let fresh := missing.map fun p => (p, Cell.value .nothing)
        modify fun s => { s with locals := f.parameters.zip cells ++ fresh }
        ofShell (spend turnTime)
        let result ← tryCatch (do run e fuel f.body; pure Value.nothing) fun leave =>
          match leave with
          | .call v => pure v
          | leave => throw leave
        modify fun s => { s with locals := outside }
        pure result
    | .usual function args => usual e fuel function args
    | .readLine origin source target => do
      let name ← match source with
        | some s => do textOfValue (← eval e fuel s)
        | none => pure []
      match ← lineFrom e origin name with
      | .error _ => pure (.number (-1.0))
      | .ok none => pure (.number 0.0)
      | .ok (some line) => do
        match target with
        | some t => assign e fuel t (.given line)
        | none => setRecord line
        if origin = .command then increase "NR"
        pure (.number 1.0)

/-- The values of some expressions. -/
def evalAll (e : Engine) : Nat → List Expr → Step (List Value)
  | 0, _ => pure []
  | _, [] => pure []
  | fuel + 1, a :: as => do
    let v ← eval e fuel a
    pure (v :: (← evalAll e fuel as))

/-- What the arguments of a call stand for: a name that has no value yet may become a table. -/
def argumentCells (e : Engine) : Nat → List Expr → Step (List Cell)
  | 0, _ => pure []
  | _, [] => pure []
  | fuel + 1, a :: as => do
    let here ← match a.name? with
      | some name => do
        match ← cell? name with
        | some (.value .nothing) | none => do pure (Cell.table (← tableOf name))
        | some c => pure c
      | none => do pure (Cell.value (← eval e fuel a))
    pure (here :: (← argumentCells e fuel as))

/-- Gives a value to what an expression stands for. -/
def assign (e : Engine) : Nat → Expr → Value → Step Unit
  | 0, _, _ => pure ()
  | fuel + 1, target, v => do
    match target with
    | .variable name => setVariable name v
    | .field place => do setField (← fieldNumber (← eval e fuel place)) v
    | .item table keys => do
      let (key, isNumber) ← keyOf (← evalAll e fuel keys)
      let n ← tableOf table
      changeTable n fun t => (t.use key isNumber).set key v
    | _ => pure ()

/-- The regular expression that an expression stands for. -/
def regexBy (e : Engine) : Nat → Expr → Step Regex
  | 0, _ => pure .empty
  | fuel + 1, a => do
    match a.regex? with
    | some r => pure r
    | none => do pure (regexOf (← textOfValue (← eval e fuel a)))

/-- The next line of the records, of a file, or of what a command prints. -/
def lineFrom (e : Engine) (origin : LineOrigin) (name : List Char) :
    Step (Except Unit (Option (List Char))) := do
  match origin with
  | .records => do pure (.ok (← nextOfAll))
  | origin => do
    let text? ← match (← get).sources.lookup name with
      | some text => pure (some text)
      | none =>
        if origin = .file then do
          match ← ofShell (Utility.bytesAt name) with
          | .ok text => pure (some text)
          | .error _ => pure none
        else do
          flush
          pure (some (← ofShell (printedByCommand e name)))
    match text? with
    | none => pure (.error ())
    | some text => do
      let separator ← textOfValue (← valueOf "RS".toList)
      match takeRecord separator text with
      | some (line, rest) => do
        modify fun s => { s with sources := withEntry name rest s.sources }
        pure (.ok (some line))
      | none => do
        modify fun s => { s with sources := withEntry name [] s.sources }
        pure (.ok none)

/-- The value of a function that every program has. -/
def usual (e : Engine) : Nat → String → List Expr → Step Value
  | 0, _, _ => pure .nothing
  | fuel + 1, function, args => do
    let textAt (i : Nat) : Step (List Char) := do
      match args[i]? with
      | some a => do textOfValue (← eval e fuel a)
      | none => pure (← get).record
    let number (n : Int) : Value := .number (Float.ofInt n)
    match function with
    | "length" => do
      match args.head?.bind Expr.name? with
      | some name => do
        match ← cell? name with
        | some (.table n) => do pure (number (← tableAt n).cells.length)
        | _ => do pure (number (← textAt 0).length)
      | none => do pure (number (← textAt 0).length)
    | "substr" => do
      let s ← textAt 0
      let first ← match args[1]? with
        | some a => do pure (wholeOf (← eval e fuel a))
        | none => pure 1
      let length ← match args[2]? with
        | some a => do pure (some (wholeOf (← eval e fuel a)))
        | none => pure none
      pure (.text (part s first length))
    | "index" => do
      let s ← textAt 0
      pure (number (placeIn (← textAt 1) 1 s))
    | "tolower" => do pure (.text ((← textAt 0).map Char.toLower))
    | "toupper" => do pure (.text ((← textAt 0).map Char.toUpper))
    | "sprintf" => do
      let (text, fault) ← formatted "sprintf" (← evalAll e fuel args)
      failIf fault
      pure (.text text)
    | "split" => do
      let s ← textAt 0
      let n ← match args[1]?.bind Expr.name? with
        | some name => tableOf name
        | none => pure 0
      let parts ← match args[2]?.bind Expr.regex?, args[2]? with
        | some r, _ => pure (splitByRegex r s)
        | none, some a => do pure (splitBy (← textOfValue (← eval e fuel a)) false s)
        | none, none => do pure (splitBy (← textOfValue (← valueOf "FS".toList)) false s)
      changeTable n fun _ => Table.ofValues (parts.map .given)
      pure (number parts.length)
    | "match" => do
      let s ← textAt 0
      let r ← match args[1]? with
        | some a => regexBy e fuel a
        | none => pure .empty
      let (start, length) : Int × Int := match r.find? s.toArray 0 with
        | some m => (m.start + 1, m.finish - m.start)
        | none => (0, -1)
      setCell "RSTART".toList (.value (number start))
      setCell "RLENGTH".toList (.value (number length))
      pure (number start)
    | "sub" | "gsub" => do
      let r ← match args[0]? with
        | some a => regexBy e fuel a
        | none => pure .empty
      let new ← textAt 1
      let target := (args[2]?).getD (.field (.number 0.0))
      let text := (← textOfValue (← eval e fuel target)).toArray
      let found := if function == "gsub" then r.allMatches text
        else (r.find? text 0).toList
      unless found.isEmpty do
        assign e fuel target (.text (replaceMatches text new 0 found))
      pure (number found.length)
    | "close" => do
      let name ← textAt 0
      let isSource := ((← get).sources.lookup name).isSome
      modify fun s => { s with sources := s.sources.filter fun o => o.1 != name }
      let isOutlet ← closeOutlet e name
      pure (number (if isSource || isOutlet then 0 else -1))
    | "system" => do
      let command ← textAt 0
      flush
      ofShell (runCommand e command [])
      pure (number (← ofShell (do pure (← getThe Machine).status)))
    | "fflush" => do
      flush
      pure (number 0)
    | function => do
      let vs ← evalAll e fuel args
      let x := (vs.headD .nothing).toNumber
      let y := ((vs.drop 1).headD .nothing).toNumber
      pure (.number ((calculate? function x y).getD 0.0))

/-- Where something is to be printed. -/
def destination (e : Engine) : Nat → Option (Direction × Expr) →
    Step (Option (Direction × List Char))
  | 0, _ => pure none
  | _, none => pure none
  | fuel + 1, some (direction, a) => do
    pure (some (direction, ← textOfValue (← eval e fuel a)))

/-- Runs a statement. -/
def run (e : Engine) : Nat → Statement → Step Unit
  | 0, _ => throw (.fault true "function call nesting too deep".toList)
  | fuel + 1, statement =>
    match statement with
    | .nothing => pure ()
    | .expr a => do
      let _ ← eval e fuel a
    | .print values sink => do
      let vs ← evalAll e fuel values
      let texts ← vs.mapM (textBy "OFMT")
      let separator ← textOfValue (← valueOf "OFS".toList)
      let text ← if values.isEmpty then do pure (← get).record
        else pure (separator.intercalate texts)
      let ending ← textOfValue (← valueOf "ORS".toList)
      emit (← destination e fuel sink) (text ++ ending)
    | .printFormatted values sink => do
      let (text, fault) ← formatted "printf" (← evalAll e fuel values)
      emit (← destination e fuel sink) text
      failIf fault
    | .sequence a b => do
      run e fuel a
      run e fuel b
    | .choice test yes no => do
      if (← eval e fuel test).isTrue then run e fuel yes else run e fuel no
    | .loop late test after body => turns e fuel late test after body
    | .forEach name table body => do
      let n ← tableOf table
      changeTable n Table.withTexts
      turnsFor e fuel name body (← tableAt n).keys
    | .leave => throw .loop
    | .again => throw .turn
    | .next => throw .record
    | .exit status => do
      match status with
      | some a => do
        let v ← eval e fuel a
        modify fun s => { s with status := (wholeOf v % 256).toNat }
      | none => pure ()
      throw .program
    | .giveBack value => do
      match value with
      | some a => do throw (.call (← eval e fuel a))
      | none => throw (.call .nothing)
    | .delete table keys => do
      let n ← tableOf table
      match keys with
      | some keys => do
        let (key, _) ← keyOf (← evalAll e fuel keys)
        changeTable n (·.erase key)
      | none => changeTable n fun _ => .empty

/-- One turn of a loop: whether there may be another. -/
def turnOf (e : Engine) : Nat → Statement → Step Bool
  | 0, _ => pure false
  | fuel + 1, body => do
    ofShell (spend turnTime)
    tryCatch (do run e fuel body; pure true) fun leave =>
      match leave with
      | .loop => pure false
      | .turn => pure true
      | leave => throw leave

/-- The turns of a loop with a test. -/
def turns (e : Engine) : Nat → (late : Bool) → Option Expr → (after body : Statement) → Step Unit
  | 0, _, _, _, _ => throw (.fault true "too many turns".toList)
  | fuel + 1, late, test, after, body => do
    let goesOn ← match late, test with
      | false, some a => do pure (← eval e fuel a).isTrue
      | _, _ => pure true
    if goesOn then
      if ← turnOf e fuel body then
        run e fuel after
        let more ← match late, test with
          | true, some a => do pure (← eval e fuel a).isTrue
          | _, _ => pure true
        if more then turns e fuel late test after body

/-- The turns of a loop through some keys. -/
def turnsFor (e : Engine) : Nat → (name : List Char) → Statement → List (List Char) → Step Unit
  | 0, _, _, _ => pure ()
  | _, _, _, [] => pure ()
  | fuel + 1, name, body, key :: keys => do
    setVariable name (.text key)
    if ← turnOf e fuel body then turnsFor e fuel name body keys

end

/-- How often parts of a program can be nested and repeated. -/
def maxFuel : Nat := 1000000000

/-- Runs the rules that are for the start or the end. -/
def runEdge (e : Engine) (isFor : Pattern → Bool) : List Rule → Step Unit
  | [] => pure ()
  | r :: rs => do
    if isFor r.pattern then run e maxFuel r.action
    runEdge e isFor rs

/-- Tells whether a rule with a number is for the record. -/
def applies (e : Engine) (number : Nat) : Pattern → Step Bool
  | .start | .finish => pure false
  | .always => pure true
  | .test a => do pure (← eval e maxFuel a).isTrue
  | .range first last => do
    let isOpen := (← get).ranges.contains number
    let begins ← if isOpen then pure true else do pure (← eval e maxFuel first).isTrue
    if begins then
      let ends := (← eval e maxFuel last).isTrue
      let others := (← get).ranges.filter (· != number)
      modify fun s => { s with ranges := if ends then others else number :: others }
    pure begins

/-- Runs the rules that are for a record. -/
def runRules (e : Engine) : (number : Nat) → List Rule → Step Unit
  | _, [] => pure ()
  | number, r :: rs => do
    if ← applies e number r.pattern then run e maxFuel r.action
    runRules e (number + 1) rs

/-- Runs the rules on record after record. -/
def runRecords (e : Engine) (rules : List Rule) : Nat → Step Unit
  | 0 => pure ()
  | fuel + 1 => do
    match ← nextOfAll with
    | none => pure ()
    | some record => do
      setRecord record
      ofShell (spend turnTime)
      tryCatch (runRules e 0 rules) fun leave =>
        match leave with
        | .record => pure ()
        | leave => throw leave
      runRecords e rules fuel

/-- Runs something that the program may end; the rest is for those that are not at the end. -/
def untilProgramEnds (act : Step Unit) : Step Unit :=
  tryCatch act fun leave =>
    match leave with
    | .program | .record => pure ()
    | leave => throw leave

/-- Runs a program: first the rules for the start, then those for records, then those for the end. -/
def runProgram (e : Engine) (p : Program) : Step Unit := do
  let isStart (pattern : Pattern) : Bool := pattern matches .start
  let isFinish (pattern : Pattern) : Bool := pattern matches .finish
  untilProgramEnds do
    runEdge e isStart p.rules
    unless p.rules.all fun r => isStart r.pattern do runRecords e p.rules maxFuel
  untilProgramEnds (runEdge e isFinish p.rules)
  for (name, _) in (← get).outlets do
    let _ ← closeOutlet e name

/-- The variables that a program starts with. -/
def startGlobals : List (List Char × Cell) :=
  let texts : List (String × String) :=
    [("FS", " "), ("OFS", " "), ("ORS", "\n"), ("RS", "\n"), ("SUBSEP", "\x1c"),
      ("CONVFMT", "%.6g"), ("OFMT", "%.6g")]
  let numbers : List (String × Float) :=
    [("NF", 0.0), ("NR", 0.0), ("FNR", 0.0), ("RSTART", 0.0), ("RLENGTH", -1.0)]
  texts.map (fun t => (t.1.toList, .value (.text t.2.toList))) ++
    numbers.map fun n => (n.1.toList, .value (.number n.2))

/-- The tables that a program starts with: what is exported to it, and its arguments. -/
def setOutside (arguments : List (List Char)) : Step Unit := do
  let exported ← ofShell (do pure ((← getThe Machine).vars.filter Variable.exported))
  let environment ← tableOf "ENVIRON".toList
  for v in exported do
    changeTable environment fun t => (t.use v.name false).set v.name (.given (v.value.getD []))
  let given ← tableOf "ARGV".toList
  for (a, i) in ("awk".toList :: arguments).zipIdx do
    let key := Nat.toDigits 10 i
    changeTable given fun t => (t.use key true).set key (.given a)
  setCell "ARGC".toList (.value (.number (arguments.length + 1).toFloat))

end Records

namespace Utility

open Records in
/-- Runs a program on the records of files. -/
def runOnRecords (e : Engine) (settings : List (List Char × List Char)) (program : List Char)
    (arguments : List (List Char)) : Run Nat := do
  match Program.read program with
  | .error fault => do
    report "awk" (fault.message)
    pure 2
  | .ok p => do
    let start : State :=
      { program := p
        globals := startGlobals
        locals := []
        tables := #[]
        record := []
        fields := #[]
        input := none
        paths := arguments
        opened := false
        sources := []
        outlets := []
        pending := []
        ranges := []
        status := 0 }
    let act : Records.Step Unit := do
      setOutside arguments
      for (name, value) in settings do setFromOutside name value
      Records.runProgram e p
    let (result, s) ← act.run.run start
    write s.pending.reverse.flatten
    match result with
    | .ok _ | .error .program => pure s.status
    | .error (.fault located message) => do
      let textAt (name : String) : List Char :=
        match s.globals.lookup name.toList with
        | some (.value v) => v.toText .none 'g'
        | _ => []
      if located then
        report "awk" (bytesOf "run time error: " ++ message)
        writeError (bytesOf "\tFILENAME=\"" ++ textAt "FILENAME" ++ bytesOf "\" FNR=" ++
          textAt "FNR" ++ bytesOf " NR=" ++ textAt "NR")
      else report "awk" message
      pure 2
    | .error _ => pure 2

/-- What `awk` is told besides its program. -/
structure RecordOptions where
  settings : List (List Char × List Char)
  programs : List (List Char)

/-- The options of `awk` and its other arguments, or what is wrong with them. -/
def recordOptions : Nat → RecordOptions → List (List Char) →
    Except (List Char) (RecordOptions × List (List Char))
  | 0, o, args => .ok (o, args)
  | fuel + 1, o, args =>
    let value (s : List Char) (args : List (List Char)) : Option (List Char × List (List Char)) :=
      match s, args with
      | [], a :: args => some (a, args)
      | [], [] => none
      | s, args => some (s, args)
    match args with
    | ['-', '-'] :: args => .ok (o, args)
    | ('-' :: 'F' :: s) :: args =>
      match value s args with
      | some (v, args) => recordOptions fuel { o with settings := o.settings ++ [("FS".toList, v)] } args
      | none => .error (bytesOf "option requires an argument -- F")
    | ('-' :: 'v' :: s) :: args =>
      match value s args with
      | some (v, args) =>
        match Records.setting? v with
        | some setting => recordOptions fuel { o with settings := o.settings ++ [setting] } args
        | none => .error (bytesOf "improper assignment: -v " ++ v)
      | none => .error (bytesOf "option requires an argument -- v")
    | ('-' :: 'f' :: s) :: args =>
      match value s args with
      | some (v, args) => recordOptions fuel { o with programs := o.programs ++ [v] } args
      | none => .error (bytesOf "option requires an argument -- f")
    | ('-' :: c :: s) :: _ => .error (bytesOf "not an option: -" ++ c :: s)
    | args => .ok (o, args)

/-- The programs in some files. -/
def programsIn : List (List Char) → Run (Except (List Char) (List Char))
  | [] => pure (.ok [])
  | path :: paths => do
    match ← bytesAt path with
    | .error err =>
      pure (.error (bytesOf "cannot open \"" ++ path ++ bytesOf ("\" (" ++ err.reason ++ ")")))
    | .ok text => do
      match ← programsIn paths with
      | .ok rest => pure (.ok (text ++ '\n' :: rest))
      | .error message => pure (.error message)

/-- Runs a program, which is an argument or stands in files, on the records of other files. -/
def awk (e : Engine) (args : List (List Char)) : Run Nat := do
  match recordOptions (args.length + 1) ⟨[], []⟩ args with
  | .error message => do
    report "awk" message
    pure 2
  | .ok (o, args) => do
    match o.programs, args with
    | [], [] => do
      writeError (bytesOf "Usage: mawk [Options] [Program] [file ...]")
      pure 0
    | [], program :: args => runOnRecords e o.settings program args
    | paths, args => do
      match ← programsIn paths with
      | .ok program => runOnRecords e o.settings program args
      | .error message => do
        report "awk" message
        pure 2

end Utility
end Shell
end Autograder
