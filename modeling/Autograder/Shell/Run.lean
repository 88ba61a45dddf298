/-
# Running scripts

What the commands of a script do. The words of a command are replaced first; then its streams are
connected, variables in front of it get their values, and what its name stands for is run.
-/

import Autograder.Shell.Builtin
import Autograder.Shell.Reader

namespace Autograder
namespace Shell

/-- The time that a command takes at least, in nanoseconds. -/
def commandTime : Nat := 1000

/-- How deep functions can call each other. -/
def maxCalls : Nat := 1000

/-- Ends the script if a command failed that must not. -/
def checkFailure : Run Unit := do
  let m ← get
  if m.has 'e' && !m.tested && m.status ≠ 0 then throw (.exit m.status)

/-- Does something that may fail. -/
def testing (act : Run Unit) : Run Unit := do
  let before := (← get).tested
  modify fun m => { m with tested := true }
  andFinally act (modify fun m => { m with tested := before })

/-- Does something inside one more loop. -/
def insideLoop (act : Run Unit) : Run Unit := do
  modify fun m => { m with loops := m.loops + 1 }
  andFinally act (modify fun m => { m with loops := m.loops - 1 })

/-- One turn of a loop: whether there is to be another. -/
def turn (body : Run Unit) : Run Bool := do
  match ← attempt body with
  | none => pure true
  | some (.leave n) => do
    setStatus 0
    if n ≤ 1 then pure false else throw (.leave (n - 1))
  | some (.again n) => do
    setStatus 0
    if n ≤ 1 then pure true else throw (.again (n - 1))
  | some stop => throw stop

/-- At most so many turns, each if the test asks for it. The exit code is that of the last turn. -/
def turns (test : Run Bool) (body : Run Unit) : (most : Nat) → (last : Nat) → Run Unit
  | 0, _ => throw .timeUp
  | most + 1, last => do
    spend commandTime
    if ← test then
      if ← turn body then turns test body most (← get).status
    else setStatus last

/-- The body once for each value of a variable. The exit code is that of the last turn. -/
def forEachValue (name : List Char) (body : Run Unit) : (last : Nat) → List (List Char) → Run Unit
  | last, [] => setStatus last
  | _, v :: vs => do
    setVariable name v false
    if ← turn body then forEachValue name body (← get).status vs

/-- Variables as they were before. -/
def restore (saved : List (List Char × Option Variable)) (m : Machine) : Machine :=
  saved.foldl (fun m (name, old) =>
    { m with vars := old.toList ++ m.vars.filter fun v => v.name != name }) m

/-- Leaves a function: what it has made its own is as it was before. -/
def leaveFrame (m : Machine) : Machine :=
  match m.frames with
  | f :: fs =>
    let m := restore f.vars m
    { m with frames := fs, options := f.options.getD m.options }
  | [] => m

/-- A function with its arguments. -/
def call (e : Engine) (f : Function) (args : List (List Char)) : Run Unit := do
  let before ← get
  if maxCalls ≤ before.frames.length then
    giveUp (bytesOf ("Maximum function recursion depth (" ++ toString maxCalls ++ ") reached"))
  set { before with
    arguments := args
    loops := 0
    frames := ⟨[], none⟩ :: before.frames
    optionWord := 1
    optionPlace := none }
  andFinally
    (do
      match ← attempt (Builtin.returning (e.exec f.body)) with
      | none => modify leaveFrame
      | some stop => do
        match stop with
        | .leave _ | .again _ => modify leaveFrame
        | _ => pure ()
        throw stop)
    (modify fun m => { m with
      arguments := before.arguments
      loops := before.loops
      optionWord := before.optionWord
      optionPlace := before.optionPlace })

/-- A built-in command. Its faults end the script if it is a special one. -/
def runBuiltin (special : Bool) (name : List Char) (act : Run Nat) : Run Unit := do
  modify fun m => { m with unwritten := none }
  match ← attempt (withTopic name do setStatus (← act)) with
  | some .fault => if special then throw .fault else setStatus 2
  | some stop => throw stop
  | none => pure ()
  if (← get).unwritten.isSome then
    withTopic name (complain (name ++ bytesOf ": I/O error"))
    setStatus 1
    modify fun m => { m with unwritten := none }

/-- A program that a script runs in a process of its own. -/
def runProgram (e : Engine) (name : List Char) (args : List (List Char)) : Run Unit := do
  match Program.named e (← get) name with
  | .ok act => inSubshell e.run do
    spend Program.startTime
    act args
  | .error err => Builtin.cannotRun name err

/-- What a simple command calls. -/
inductive Called where
  | nothing
  | builtin (act : List (List Char) → Run Nat)
  | function (f : Function)
  | program

/-- A call: what is called with a name and arguments. Where it is `special`, faults end the script,
and assignments in front of it stay. -/
structure Call where
  called : Called
  special : Bool
  name : List Char
  arguments : List (List Char)

/-- The call that some words make, where functions are passed over if it is `plain`. -/
def Call.ofWords (e : Engine) (m : Machine) (plain : Bool) (name : List Char)
    (arguments : List (List Char)) : Call :=
  let special := Builtin.isAmong Builtin.specialNames name
  let function? := if plain || special then none else m.functions.find? fun f => f.name == name
  match function?, Builtin.named? e name with
  | some f, _ => ⟨.function f, false, name, arguments⟩
  | none, some act => ⟨.builtin act, special && !plain, name, arguments⟩
  | none, none => ⟨.program, false, name, arguments⟩

/-- The call that some fields make. In front of another command, `command` passes over functions
and makes no command a special one. -/
def Call.of (e : Engine) (m : Machine) (plain : Bool) : List (List Char) → Call
  | [] => ⟨.nothing, true, [], []⟩
  | name :: args =>
    let outer := Call.ofWords e m plain name args
    if name != "command".toList || outer.called matches .function _ then outer
    else
      match args with
      | ['-', 'p'] :: rest | ['-', '-'] :: rest => if rest.isEmpty then outer else of e m true rest
      | ('-' :: _ :: _) :: _ | [] => outer
      | rest => of e m true rest

/-- The call opens streams for the shell itself. -/
def Call.keepsStreams (c : Call) : Bool := c.name == "exec".toList

/-- Shows a command before it is run. -/
def trace (channels : List (Nat × Channel)) (assigned : List (List Char × List Char))
    (fields : List (List Char)) : Run Unit := do
  let m ← get
  match m.has 'x', (channels.lookup 2).bind Channel.sink with
  | true, some sink =>
    let parts := assigned.map (fun a => a.1 ++ '=' :: a.2) ++ fields
    let start := (m.value? "PS4".toList).getD []
    writeTo sink (start ++ Printing.joined parts ++ ['\n'])
  | _, _ => pure ()

/-- Sets variables, and returns their values. -/
def assignAll (e : Engine) (exported : Bool) : List (List Char × Word) →
    Run (List (List Char × List Char))
  | [] => pure []
  | (name, w) :: rest => do
    let value ← textOf e w
    setVariable name value exported
    pure ((name, value) :: (← assignAll e exported rest))

/-- Runs a call. -/
def Call.run (e : Engine) (c : Call) : Run Unit :=
  match c.called with
  | .nothing => modify fun m => { m with status := m.inner }
  | .builtin act => runBuiltin c.special c.name (act c.arguments)
  | .function f => call e f c.arguments
  | .program => runProgram e c.name c.arguments

/-- Sets the variables in front of a call and runs it. The variables are as before afterwards,
unless it is a special call. -/
def Call.runWith (e : Engine) (channels : List (Nat × Channel))
    (assignments : List (List Char × Word)) (fields : List (List Char)) (c : Call) : Run Unit := do
  let names := assignments.map Prod.fst
  let before ← get
  let exported := !c.special || (c.keepsStreams && !c.arguments.isEmpty)
  let assigned ← assignAll e exported assignments
  trace channels assigned fields
  let again (m : Machine) : Machine := restore (names.map fun n => (n, before.var? n)) m
  match ← attempt (c.run e) with
  | none => unless c.special do modify again
  | some stop => do
    match stop with
    | .leave _ | .again _ | .back _ => unless c.special do modify again
    | _ => pure ()
    throw stop

/-- The fields that the words of a command stand for. Where a command declares variables, the values
of its assignments are not cut into fields. -/
def fieldsOfCommand (e : Engine) : List Word → Run (List (List Char))
  | [] => pure []
  | w :: ws => do
    match ← fieldsOf e w with
    | [] => fieldsOfCommand e ws
    | [name] =>
      if name = "command".toList then pure (name :: (← fieldsOfCommand e ws))
      else if Builtin.isAmong Builtin.declaring name then pure (name :: (← declared ws))
      else pure (name :: (← fieldsOfAll e ws))
    | fields => pure (fields ++ (← fieldsOfAll e ws))
where
  /-- The fields of words of which some are assignments. -/
  declared : List Word → Run (List (List Char))
    | [] => pure []
    | w :: ws => do
      let here ← match assignment? w with
        | some (name, value) => pure [name ++ '=' :: (← textOf e value)]
        | none => fieldsOf e w
      pure (here ++ (← declared ws))

/-- A simple command. -/
def simple (e : Engine) (line : Nat) (assignments : List (List Char × Word)) (words : List Word)
    (rs : List Redirect) : Run Unit := do
  modify fun m => { m with line := line, inner := 0 }
  spend commandTime
  let fields ← fieldsOfCommand e words
  let channels := (← get).channels
  let targets ← targetsOf e rs
  let c := Call.of e (← get) false fields
  let act : Run Unit := do
    if ← redirectAll targets then
      modify fun m => { m with holds := some (m.holds.getD (streamsOf m.channels)) }
      c.runWith e channels assignments fields
    else
      setStatus 2
      if c.special && !fields.isEmpty then throw .fault
  if c.keepsStreams then act
  else andFinally act (modify fun m => { m with channels := channels })

/-- The first arm of a choice with a pattern that matches the text. -/
def armOf (e : Engine) (text : List Char) : List (List Word × Command) → Run (Option Command)
  | [] => pure none
  | ([], _) :: arms => armOf e text arms
  | (p :: ps, c) :: arms => do
    if (patternOf (← expandWord e maxDepth p)).isMatch text then pure (some c)
    else armOf e text ((ps, c) :: arms)
termination_by arms => arms.foldr (fun a n => a.1.length + 1 + n) 0

/-- Does nothing, and succeeds. -/
def nothing : Command → Bool
  | .nothing => true
  | _ => false

/-- A command whose own redirections say which streams it keeps open. -/
def settles : Command → Bool
  | .simple _ _ _ _ | .redirected _ _ _ => true
  | _ => false

/-- Runs a command, where what it is made of is run by an engine. -/
def step (e : Engine) : Command → Run Unit
  | .nothing => pure ()
  | .simple line assignments words rs => do
    simple e line assignments words rs
    checkFailure
    settle e.run
  | .pipe left right => do
    pipeline e.run (e.exec left) (e.exec right)
    checkFailure
    settle e.run
  | .negate c => do
    testing (e.exec c)
    setStatus (if (← get).status = 0 then 1 else 0)
  | .andThen left right => do
    testing (e.exec left)
    if (← get).status = 0 then e.exec right
  | .orElse left right => do
    testing (e.exec left)
    if (← get).status ≠ 0 then e.exec right
  | .sequence left right => do
    e.exec left
    e.exec right
  | .background c => startJob e.run (settles c) (e.exec c)
  | .apart c => do
    inSubshell e.run (e.exec c)
    checkFailure
    settle e.run
  | .choice test yes no => do
    testing (e.exec test)
    if (← get).status = 0 then e.exec yes
    else if nothing no then setStatus 0
    else e.exec no
  | .loop untilTrue test body => insideLoop do
    let goesOn : Run Bool := do
      let more ← turn (testing (e.exec test))
      pure (more && ((← get).status == 0) != untilTrue)
    turns goesOn (e.exec body) ((← get).limit / commandTime + 1) 0
  | .forEach name items body => insideLoop do
    let values ← match items with
      | some ws => fieldsOfAll e ws
      | none => pure (← get).arguments
    forEachValue name (e.exec body) 0 values
  | .select subject arms => do
    let text ← textOf e subject
    match ← armOf e text arms with
    | some c => if nothing c then setStatus 0 else e.exec c
    | none => setStatus 0
  | .define name body => do
    let others (m : Machine) : List Function := m.functions.filter fun f => f.name != name
    modify fun m => { m with functions := ⟨name, body⟩ :: others m }
    setStatus 0
  | .redirected line c rs => do
    modify fun m => { m with line := line }
    withRedirection e rs (e.exec c) (pure ())

/-- Runs the lines of a script, at most so many. A script without commands succeeds. -/
def runLines (e : Engine) : (most : Nat) → (isEmpty : Bool) → Script → Run Unit
  | 0, _, _ => pure ()
  | most + 1, isEmpty, s => do
    match { s with aliases := (← get).aliases }.readLine? with
    | .error (fault, line) => do
      complainAt line (bytesOf ("Syntax error: " ++ fault.message))
      throw .fault
    | .ok none => if isEmpty then setStatus 0 else pure ()
    | .ok (some (c, rest)) => do
      e.exec c
      runLines e most (isEmpty && nothing c) rest

/-- Runs a script. -/
def runScript (e : Engine) (script : List Char) : Run Unit :=
  runLines e (script.length + 1) true (Script.ofText 1 script)

/-- What runs scripts in which commands are nested so deep at most. -/
def engine : (depth : Nat) → Engine
  | 0 =>
    { exec := fun _ => throw .timeUp
      run := fun _ => throw .timeUp
      find := fun _ _ => .error .notFound }
  | depth + 1 =>
    { exec := fun c => do unless (← get).has 'n' do step (engine depth) c
      run := fun script => runScript (engine depth) script
      find := fun m name => Program.named (engine depth) m name }

/-- How deep commands can be nested. -/
def maxNesting : Nat := 1000000

/-- What runs scripts. -/
def system : Engine := engine maxNesting

end Shell
end Autograder
