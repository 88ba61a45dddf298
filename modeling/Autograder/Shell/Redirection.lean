/-
# Redirections

What the streams of a command are connected with. Some paths are those of devices: they lead to
nothing, to a place without room, or to a stream that is open already.
-/

import Autograder.Files.Device
import Autograder.Shell.Expansion

namespace Autograder
namespace Shell

/-- The device at a path. -/
def device? (path : String) : Option Device :=
  if Path.isAbsolute path then Device.at? (Path.names path).reverse else none

/-- How many of the zero bytes of a device there are. -/
def zeroCount : Nat := 1048576

/-- A source that can be read at once. -/
def Source.ofText (s : List Char) : Source := ⟨s, 0, true, none⟩

/-- What can be read at a path. -/
def openSource (path : List Char) : Run (Except FileError Channel) := do
  let m ← get
  let opened (s : Source) : Run (Except FileError Channel) := do
    pure (.ok ⟨some (← addSource s), none⟩)
  match device? (toText path) with
  | some .nothing => opened (.ofText [])
  | some .zeros | some .full => opened (.ofText (List.replicate zeroCount '\x00'))
  | some (.stream n) =>
    match m.channels.lookup n with
    | some c => pure (.ok c)
    | none => pure (.error .notFound)
  | none =>
    match m.files.find (toText path) with
    | .ok (_, .file bytes _) => opened (.ofText (charsOf bytes))
    | .ok (_, .directory) => opened ⟨[], 0, true, some .isADirectory⟩
    | .error e => pure (.error e)

/-- A file that is opened to write to it. What is in it goes away, unless it is kept. -/
def openFile (atEnd keep : Bool) (place : Place) : Run Sink := do
  let m ← get
  let files := if keep && (m.files.node? place).isSome then m.files
    else m.files.putBytes place .empty
  set { m with files := files, opened := m.opened.push ⟨place, atEnd, 0⟩ }
  pure (.file m.opened.size)

/-- What can be written at a path. -/
def openSink (kind : RedirectKind) (path : List Char) : Run (Except FileError Channel) := do
  let m ← get
  match device? (toText path) with
  | some .nothing | some .zeros => pure (.ok ⟨none, some .nowhere⟩)
  | some .full => pure (.ok ⟨none, some .full⟩)
  | some (.stream n) =>
    match m.channels.lookup n with
    | some c => pure (.ok c)
    | none => pure (.error .notFound)
  | none =>
    match m.files.writable (toText path) with
    | .error e => pure (.error e)
    | .ok place =>
      let isThere := (m.files.node? place).isSome
      if kind = .output && isThere && m.has 'C' then pure (.error .alreadyExists)
      else
        let keeps := kind = .append || kind = .inputAndOutput
        let sink ← openFile (kind = .append) keeps place
        match kind, (← get).files.node? place with
        | .inputAndOutput, some (.file bytes _) => do
          pure (.ok ⟨some (← addSource (.ofText (charsOf bytes))), some sink⟩)
        | _, _ => pure (.ok ⟨none, some sink⟩)

/-- A redirection that was not possible. -/
def cannotOpen (path : List Char) (making : Bool) (e : FileError) : Run Bool := do
  let reason := match e with
    | .notFound | .notADirectory => if making then "Directory nonexistent" else "No such file"
    | e => e.reason
  complain (bytesOf (if making then "cannot create " else "cannot open ") ++ path ++
    bytesOf (": " ++ reason))
  pure false

/-- Connects a stream. -/
def connect (stream : Nat) (c : Channel) : Run Unit :=
  modify fun m => { m with channels := setChannel stream c m.channels }

/-- Connects a stream with what could be opened. -/
def connectOpened (stream : Nat) (path : List Char) (making : Bool) :
    Except FileError Channel → Run Bool
  | .ok c => do
    connect stream c
    pure true
  | .error e => cannotOpen path making e

/-- Connects a stream with what another one is connected with, or with nothing. -/
def duplicate (stream : Nat) (target : List Char) : Run Bool := do
  let m ← get
  match target with
  | ['-'] => do
    set { m with channels := m.channels.filter fun c => c.1 != stream }
    pure true
  | [d] =>
    match m.channels.lookup (d.toNat - '0'.toNat) with
    | some c => do
      connect stream c
      pure true
    | none => do
      complain (d :: bytesOf (": " ++ FileError.badDescriptor.reason))
      pure false
  | _ => giveUp (bytesOf "Syntax error: Bad fd number")

/-- Sets up a redirection to what its word stands for. -/
def redirect (stream : Nat) (kind : RedirectKind) (target : List Char) : Run Bool := do
  match kind with
  | .here => do
    connect stream ⟨some (← addSource ⟨target, 0, false, none⟩), none⟩
    pure true
  | .input => do connectOpened stream target false (← openSource target)
  | .duplicate => duplicate stream target
  | kind => do connectOpened stream target true (← openSink kind target)

/-- What the words of redirections stand for. A stream can only be that of a digit. -/
def targetsOf (e : Engine) : List Redirect → Run (List (Nat × RedirectKind × List Char))
  | [] => pure []
  | .to stream kind w :: rs => do
    let target ← textOf e w
    let isStream := target = ['-'] || (target.length = 1 && target.all Char.isDigit)
    if kind = .duplicate && !isStream then giveUp (bytesOf "Syntax error: Bad fd number")
    pure ((stream, kind, target) :: (← targetsOf e rs))

/-- Sets up redirections in order, up to one that is not possible. -/
def redirectAll : List (Nat × RedirectKind × List Char) → Run Bool
  | [] => pure true
  | (stream, kind, target) :: rs => do
    if ← redirect stream kind target then redirectAll rs else pure false

/-- Does something with streams redirected, or something else if that is not possible; afterwards
they are as before. -/
def withRedirection (e : Engine) (rs : List Redirect) (act failed : Run Unit) : Run Unit := do
  let before := (← get).channels
  let targets ← targetsOf e rs
  andFinally
    (do
      if ← redirectAll targets then
        modify fun m => { m with holds := some (m.holds.getD (streamsOf m.channels)) }
        act
      else
        setStatus 2
        failed)
    (modify fun m => { m with channels := before })

end Shell
end Autograder
