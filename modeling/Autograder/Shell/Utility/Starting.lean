/-
# Utilities that start programs

A program is started with other variables, with a time limit, or with arguments that are read. Where
there is no such program, the exit code tells why.
-/

import Autograder.Shell.Utility.Values

namespace Autograder
namespace Shell
namespace Utility

/-- The exit code where a program cannot be started. -/
def startFailure (e : FileError) : Nat :=
  match e with
  | .notFound | .notADirectory => 127
  | _ => 126

/-- Goes on as a program, and says what is wrong if that is not possible. -/
def goOnAs (e : Engine) (say : FileError → List Char) (name : List Char)
    (args : List (List Char)) : Run Nat := do
  match e.find (← get) name with
  | .ok act => do
    act args
    pure (← get).status
  | .error err => do
    let err := if err == .isADirectory then .permissionDenied else err
    writeError (say err)
    pure (startFailure err)

/-- The number of the list in which a shell keeps a variable, of which it goes through one after the
other. -/
def listNumber (name : List Char) : Nat :=
  ((name.headD '\x00').toNat * 16 + name.foldl (fun n c => n + c.toNat) 0) % 39

/-- The exported variables with values, in the order in which a program sees them. -/
def environment (m : Machine) : List (List Char × List Char) :=
  let exported := (m.vars.filter Variable.exported).reverse
  let ordered := exported.mergeSort fun a b => decide (listNumber a.name ≤ listNumber b.name)
  ordered.filterMap fun v => v.value.map fun s => (v.name, s)

/-- The environment with the value of a variable replaced, or added at the end. -/
def withVariable (name value : List Char) (vs : List (List Char × List Char)) :
    List (List Char × List Char) :=
  if vs.any fun v => v.1 == name then vs.map fun v => if v.1 = name then (name, value) else v
  else vs ++ [(name, value)]

/-- Starts a program with other variables, or shows these. -/
def env (e : Engine) (args : List (List Char)) : Run Nat :=
  let words := [("ignore-environment", 'i'), ("unset", 'u'), ("null", '0'), ("chdir", 'C')]
  withOptions "env" ⟨"i0", "uC", words, 125, true⟩ args fun o => do
    let m ← get
    let isBare := o.has 'i' || o.operands.head? == some ['-']
    let operands := if o.operands.head? == some ['-'] then o.operands.drop 1 else o.operands
    let given := if isBare then [] else environment m
    let given := given.filter fun v => !(o.values 'u').contains v.1
    let settings := operands.takeWhile (·.contains '=')
    let vs := settings.foldl (fun vs a =>
      let (name, value) := Builtin.splitAssignment a
      withVariable name (value.getD []) vs) given
    match operands.drop settings.length with
    | [] => do
      for v in vs do
        write (v.1 ++ '=' :: v.2 ++ [if o.has '0' then '\x00' else '\n'])
      pure 0
    | name :: args => do
      let vars := vs.reverse.map fun v => ⟨v.1, some v.2, true, false⟩
      set { m with vars := vars }
      let say (err : FileError) : List Char :=
        bytesOf "env: " ++ inQuotes name ++ bytesOf (": " ++ err.reason)
      goOnAs e say name args

/-- Shows the values of exported variables. -/
def printenv (args : List (List Char)) : Run Nat :=
  withOptions "printenv" (.letters "0" "") args fun o => do
    let vs := environment (← get)
    let ending := [if o.has '0' then '\x00' else '\n']
    if o.operands.isEmpty then
      for v in vs do write (v.1 ++ '=' :: v.2 ++ ending)
    let mut status := 0
    for name in o.operands do
      match vs.lookup name with
      | some value => write (value ++ ending)
      | none => status := 1
    pure status

/-- A program that cannot be run, as the utilities say it that do nothing but start one. -/
def failedToRun (utility : String) (name : List Char) (err : FileError) : List Char :=
  bytesOf (utility ++ ": failed to run command ") ++ inQuotes name ++ bytesOf (": " ++ err.reason)

/-- Starts a program that goes on without a terminal, or gives way to others. -/
def startPlainly (utility valued : String) (e : Engine) (args : List (List Char)) : Run Nat :=
  withOptions utility ⟨"", valued, [("adjustment", 'n')], 125, true⟩ args fun o => do
    match o.operands with
    | [] =>
      if utility == "nice" then do
        writeLine ['0']
        pure 0
      else misused utility (bytesOf "missing operand") 125
    | name :: args =>
      let say (err : FileError) : List Char :=
        if utility == "nice" then bytesOf "nice: " ++ inQuotes name ++ bytesOf (": " ++ err.reason)
        else failedToRun utility name err
      goOnAs e say name args

/-- Runs something for so much time at most; it tells whether it has been stopped. -/
def within (time : Nat) (act : Run Unit) : Run Bool := do
  let before ← get
  let ending := before.clock + time
  if time = 0 || before.limit ≤ ending then
    act
    pure false
  else do
    set { before with limit := ending }
    match ← attempt act with
    | some .timeUp => do
      modify fun m => { m with limit := before.limit, clock := ending }
      pure true
    | stop? => do
      modify fun m => { m with limit := before.limit }
      match stop? with
      | some stop => throw stop
      | none => pure false

/-- Starts a program with a time limit. -/
def timeout (e : Engine) (args : List (List Char)) : Run Nat :=
  let words := [("signal", 's'), ("kill-after", 'k'), ("preserve-status", 'p'), ("foreground", 'f'),
    ("verbose", 'v')]
  withOptions "timeout" ⟨"pfv", "sk", words, 125, true⟩ args fun o => do
    let usage : Run Nat := do
      writeError (bytesOf (hint "timeout"))
      pure 125
    let signal := (o.value? 's').map fun s =>
      (s, signalOf? (if "SIG".toList.isPrefixOf s then s.drop 3 else s))
    match signal, o.operands with
    | some (s, none), _ => do
      report "timeout" (inQuotes s ++ bytesOf ": invalid signal")
      usage
    | _, limit :: name :: args =>
      match duration? limit with
      | none => do
        report "timeout" (bytesOf "invalid time interval " ++ inQuotes limit)
        usage
      | some time => do
        let run : Run Unit := separately e.run do
          setStatus (← goOnAs e (failedToRun "timeout" name) name args)
        let signal := (signal.bind Prod.snd).getD 15
        let mut status := 0
        match ← attempt (do if ← within time run then throw (.signal signal)) with
        | some (.signal n) =>
          if n = 9 then throw (.signal 9)
          else status := if n = signal && !o.has 'p' then 124 else 128 + n
        | some stop => throw stop
        | none => status := (← get).status
        pure status
    | _, _ => usage

/-- Shows where programs are. -/
def which (e : Engine) (args : List (List Char)) : Run Nat :=
  withOptions "which" (.letters "as" "") args fun o => do
    let m ← get
    let path := (m.value? "PATH".toList).getD []
    let mut status := if o.operands.isEmpty then 1 else 0
    for name in o.operands do
      let candidates := if name.contains '/' then [name]
        else (Builtin.splitAt ':' path).map fun d => if d.isEmpty then name else d ++ '/' :: name
      let found := candidates.filter fun p =>
        match e.find m p with
        | .ok _ => true
        | .error _ => false
      for p in if o.has 'a' then found else found.take 1 do
        unless o.has 's' do writeLine p
      if found.isEmpty then status := 1
    pure status

/-- The items of a text between blanks, where quotes and backslashes keep characters together; or the
quote that is not closed. The current item, if there is one, stands in reverse. With `lines`, only
line feeds separate items. -/
def quotedItems (lines : Bool) (current : Option (List Char)) :
    List Char → Except Char (List (List Char × Bool))
  | [] => .ok ((current.map fun s => (s.reverse, true)).toList)
  | '\\' :: c :: r => quotedItems lines (some (c :: current.getD [])) r
  | c :: r =>
    if c = '"' || c = '\'' then
      match inside c (current.getD []) r with
      | some (s, rest) =>
        if rest.length < r.length + 1 then quotedItems lines (some s) rest else .error c
      | none => .error c
    else if c = '\n' then do
      let rest ← quotedItems lines none r
      pure ((current.map fun s => (s.reverse, true)).toList ++ rest)
    else if isBlank c && (!lines || current.isNone) then do
      let rest ← quotedItems lines none r
      pure ((current.map fun s => (s.reverse, false)).toList ++ rest)
    else quotedItems lines (some (c :: current.getD [])) r
termination_by s => s.length
where
  /-- The characters up to a quote, in front of the others in reverse, and what follows. -/
  inside (quote : Char) (done : List Char) : List Char → Option (List Char × List Char)
    | [] => none
    | c :: r => if c = quote then some (done, r) else if c = '\n' then none else inside quote (c :: done) r

/-- Items in groups of so many. -/
def groupsOf {α : Type} (size : Nat) : Nat → List α → List (List α)
  | 0, _ => []
  | fuel + 1, items =>
    if items.isEmpty then [] else items.take size :: groupsOf size fuel (items.drop size)

/-- Items in groups of so many lines. -/
def lineGroups (size count : Nat) (group : List (List Char)) :
    List (List Char × Bool) → List (List (List Char))
  | [] => if group.isEmpty then [] else [group.reverse]
  | (s, ends) :: rest =>
    let group := s :: group
    let count := if ends then count + 1 else count
    if count = size then group.reverse :: lineGroups size 0 [] rest
    else lineGroups size count group rest

/-- A text with every place where another one stands replaced. -/
def replaceAll (old new : List Char) : Nat → List Char → List Char
  | 0, s => s
  | fuel + 1, s =>
    match s with
    | [] => []
    | c :: r =>
      if !old.isEmpty && old.isPrefixOf s then new ++ replaceAll old new fuel (s.drop old.length)
      else c :: replaceAll old new fuel r

/-- Runs a program with arguments, which has nothing to read, as one of several. It comes to the exit
code that it means for all of them, and tells whether the others are to be run. -/
def startOne (e : Engine) (shows : Bool) (name : List Char) (args : List (List Char)) :
    Run (Nat × Bool) := do
  if shows then writeError (Printing.joined (name :: args))
  match e.find (← get) name with
  | .error err => do
    let err := if err == .isADirectory then .permissionDenied else err
    report "xargs" (name ++ bytesOf (": " ++ err.reason))
    pure (startFailure err, false)
  | .ok act => do
    let channels := (← get).channels
    let n ← addSource ⟨[], 0, false, none⟩
    modify fun m => { m with channels := setChannel 0 ⟨some n, none⟩ m.channels }
    let stop? ← attempt (separately e.run (act args))
    modify fun m => { m with channels := channels }
    match stop? with
    | some (.signal n) => do
      report "xargs" (name ++ bytesOf (": terminated by signal " ++ toString n))
      pure (125, false)
    | some stop => throw stop
    | none =>
      match (← get).status with
      | 0 => pure (0, true)
      | 255 => do
        report "xargs" (name ++ bytesOf ": exited with status 255; aborting")
        pure (124, false)
      | _ => pure (123, true)

/-- Runs a program with one list of arguments after the other. -/
def startEach (e : Engine) (shows : Bool) (name : List Char) :
    (status : Nat) → List (List (List Char)) → Run Nat
  | status, [] => pure status
  | status, args :: rest => do
    let (here, goesOn) ← startOne e shows name args
    let status := if here = 0 then status else here
    if goesOn then startEach e shows name status rest else pure status

/-- The items of a text for `xargs`, each with whether a line ends after it. -/
def argumentItems (o : Options) (s : List Char) : Except Char (List (List Char × Bool)) :=
  let separator? := if o.has '0' then some '\x00'
    else (o.value? 'd').map fun d => (Printing.unescape d.length d).1.headD '\n'
  match separator? with
  | some c =>
    let items := Builtin.splitAt c s
    let items := if s.getLast? == some c || s.isEmpty then items.dropLast else items
    .ok (items.map fun i => (i, true))
  | none => quotedItems (o.has 'I') none s

/-- Runs a program with arguments that are read. -/
def xargs (e : Engine) (args : List (List Char)) : Run Nat :=
  let words := [("null", '0'), ("no-run-if-empty", 'r'), ("verbose", 't'), ("max-args", 'n'),
    ("max-lines", 'L'), ("replace", 'I'), ("delimiter", 'd'), ("max-procs", 'P'), ("arg-file", 'a'),
    ("exit", 'x')]
  withOptions "xargs" ⟨"0rtxp", "nLIdPaEs", words, 1, true⟩ args fun o => do
    let amount? (letter : Char) : Option Nat := (o.value? letter).bind digits?
    let bad := ['n', 'L'].filter fun c => (amount? c) == some 0
    match bad with
    | c :: _ => do
      return (← misused "xargs" (bytesOf "value 0 for -" ++ c :: bytesOf " option should be >= 1") 1)
    | [] => pure ()
    if o.has 'I' && o.has 'n' then
      report "xargs" (bytesOf ("warning: options --max-args and --replace/-I/-i are mutually " ++
        "exclusive, ignoring previous --max-args value"))
    let input ← match o.value? 'a' with
      | some path => bytesAt path
      | none => takeInput
    match input with
    | .error err => do
      report "xargs" (bytesOf ("standard input: " ++ err.reason))
      pure 1
    | .ok s =>
      match argumentItems o s with
      | .error quote => do
        let kind := if quote = '"' then "double" else "single"
        report "xargs" (bytesOf ("unmatched " ++ kind ++
          " quote; by default quotes are special to xargs unless you use the -0 option"))
        pure 1
      | .ok items =>
        let (name, first) := match o.operands with
          | name :: first => (name, first)
          | [] => ("echo".toList, [])
        let plain := items.map Prod.fst
        match o.value? 'I' with
        | some mark =>
          let each := plain.map fun i => first.map fun a => replaceAll mark i (a.length + 1) a
          startEach e (o.has 't') name 0 each
        | none =>
          let groups := match amount? 'n', amount? 'L' with
            | some n, _ => groupsOf n (plain.length + 1) plain
            | none, some n => lineGroups n 0 [] items
            | none, none => if plain.isEmpty then [] else [plain]
          let groups := if groups.isEmpty && !o.has 'r' then [[]] else groups
          startEach e (o.has 't') name 0 (groups.map (first ++ ·))

end Utility
end Shell
end Autograder
