/-
# Running editing programs

The lines of files go through a program one after the other. What is shown, what is written to files,
and where the program has ended come together at the end.
-/

import Autograder.Shell.Editing.Program

namespace Autograder
namespace Shell
namespace Editing

/-- A line of a file, and whether a line feed ends it. -/
structure InputLine where
  text : List Char
  feed : Bool
  file : List Char

/-- Something that is shown when a line has been edited. -/
inductive Queued where
  | text (s : List Char)
  | file (path : List Char)

/-- A program at work. -/
structure Editor where
  /-- The line that is edited. -/
  space : List Char
  feed : Bool
  held : List Char
  number : Nat
  file : List Char
  input : List InputLine
  /-- The steps whose ranges have begun, and where those end if that is known. -/
  active : List (Nat × Option Nat)
  queue : List Queued
  replaced : Bool
  last : Option Regex
  /-- What has been shown, in reverse; its last line may lack a line feed. -/
  shown : List (List Char)
  lacksFeed : Bool
  /-- What has been written to files, in reverse. -/
  written : List (List Char × List Char)

/-- What follows a step. -/
inductive Flow where
  /-- The step at a place. -/
  | goOn (place : Nat)
  | nextLine
  /-- The line is edited once more. -/
  | again
  | stop (status : Nat)
  | timeUp

/-- What does not change while a program is at work: it, whether lines are shown when they have been
edited, and what is in files. -/
structure Job where
  program : Program
  silent : Bool
  contents : List Char → List Char

/-- Shows a text, with a line feed or without. -/
def Editor.show (e : Editor) (s : List Char) (feed : Bool) : Editor :=
  let start := if e.lacksFeed then ['\n'] else []
  { e with
    shown := (start ++ s ++ if feed then ['\n'] else []) :: e.shown
    lacksFeed := !feed }

/-- Shows text that ends its own lines. -/
def Editor.showText (e : Editor) (s : List Char) : Editor :=
  if s.isEmpty then e
  else if s.getLast? == some '\n' then e.show s.dropLast true
  else e.show s false

/-- Shows what waits for the end of a line. -/
def Editor.flush (job : Job) (e : Editor) : Editor :=
  let e := e.queue.foldl (fun e q =>
    match q with
    | .text s => e.showText s
    | .file path => e.showText (job.contents path)) e
  { e with queue := [] }

/-- Takes the next line. -/
def Editor.take? (e : Editor) : Option Editor :=
  match e.input with
  | [] => none
  | l :: rest => some { e with
      space := l.text
      feed := l.feed
      file := l.file
      number := e.number + 1
      input := rest }

/-- The regular expression that is meant. -/
def Editor.regex (e : Editor) (r : Option Regex) : Option Regex := r.or e.last

/-- The current line is one of those of an address. -/
def Editor.isAt (e : Editor) (a : Address) : Bool × Editor :=
  match a with
  | .line n => (e.number = n, e)
  | .last => (e.input.isEmpty, e)
  | .step first step =>
    (if step = 0 then e.number = first
      else first ≤ e.number && (e.number - first) % step = 0, e)
  | .regex r =>
    match e.regex r with
    | some r => ((r.find? e.space.toArray 0).isSome, { e with last := some r })
    | none => (false, e)

/-- The range of a step begins at the current line: whether it goes on after it. -/
def Editor.begin (e : Editor) (i : Nat) (s : Step) : Editor :=
  let until_ (n : Option Nat) : Editor :=
    if n.all (e.number < ·) then { e with active := (i, n) :: e.active } else e
  match s.last with
  | none => e
  | some (.after n) => until_ (some (e.number + n))
  | some (.multiple n) => until_ (some (if n = 0 then 0 else (e.number + n - 1) / n * n))
  | some (.address (.line n)) => until_ (some n)
  | some (.address _) => until_ none

/-- The current line is one of those that a step is for. -/
def Editor.selects (e : Editor) (i : Nat) (s : Step) : Bool × Editor :=
  match s.first, s.last with
  | none, _ => (true, e)
  | some a, none => e.isAt a
  | some a, some z =>
    let without (e : Editor) : Editor := { e with active := e.active.filter fun x => x.1 != i }
    let zero := match a with
      | .line 0 => true
      | _ => false
    let active := if zero && e.number = 1 && !e.active.any (·.1 = i) then some none
      else e.active.lookup i
    match active with
    | some (some n) =>
      if e.number < n then (true, e)
      else if e.number = n then (true, without e)
      else
        let (here, e) := (without e).isAt a
        if here then (true, e.begin i s) else (false, e)
    | some none =>
      let e := if zero && e.number = 1 then { e with active := (i, none) :: e.active } else e
      match z with
      | .address z =>
        let (here, e) := e.isAt z
        (true, if here then without e else e)
      | _ => (true, without e)
    | none =>
      let (here, e) := e.isAt a
      if here then (true, e.begin i s) else (false, e)

/-- A text in the case that is asked for: of all letters, and of the first. -/
def inCase (all : Option Bool) (first : Option Bool) (s : List Char) : List Char :=
  let change (upper : Bool) (c : Char) : Char := if upper then c.toUpper else c.toLower
  let s := match all with
    | some upper => s.map (change upper)
    | none => s
  match first, s with
  | some upper, c :: r => change upper c :: r
  | _, s => s

/-- What stands instead of a match. -/
def replacement (text : Array Char) (m : Regex.Match) (ps : List Piece) : List Char :=
  (ps.foldl (fun (out, all, first) p =>
    let put (s : List Char) :=
      (out ++ inCase all first s, all, if s.isEmpty then first else none)
    match p with
    | .text s => put s
    | .group n => put (m.group text n)
    | .caseOf upper => (out, upper, none)
    | .nextCase upper => (out, all, some upper)) (([] : List Char), none, none)).1

/-- A text with some of its matches replaced, and whether there was one. -/
def Substitution.apply (s : Substitution) (r : Regex) (line : List Char) : List Char × Bool :=
  let text := line.toArray
  let wanted := ((r.allMatches text).drop (s.first - 1)).take (if s.all then text.size + 1 else 1)
  let (out, place) := wanted.foldl (fun (out, place) m =>
    (out ++ Regex.slice text place m.start ++ replacement text m s.pieces, m.finish))
    (([] : List Char), 0)
  (out ++ Regex.slice text place text.size, !wanted.isEmpty)

/-- The first line of a text. -/
def firstLine (s : List Char) : List Char := s.takeWhile (· != '\n')

/-- A text in visible form: what cannot be seen stands behind a backslash. -/
def visibly (s : List Char) : List Char :=
  s.flatMap fun c =>
    match c with
    | '\\' => ['\\', '\\']
    | '\x07' => ['\\', 'a']
    | '\x08' => ['\\', 'b']
    | '\x0C' => ['\\', 'f']
    | '\n' => ['\\', 'n']
    | '\r' => ['\\', 'r']
    | '\t' => ['\\', 't']
    | '\x0B' => ['\\', 'v']
    | c =>
      if ' ' ≤ c && c ≤ '~' then [c]
      else
        let ds := Nat.toDigits 8 c.toNat
        '\\' :: (List.replicate (3 - ds.length) '0' ++ ds)

/-- A text cut into lines of a width at most, where a backslash ends all but the last. -/
def wrapped (width : Nat) : Nat → List Char → List Char
  | 0, s => s
  | fuel + 1, s =>
    if s.length ≤ width then s
    else s.take (width - 1) ++ ['\\', '\n'] ++ wrapped width fuel (s.drop (width - 1))

/-- Writes a line to a file. -/
def Editor.write (e : Editor) (path s : List Char) : Editor :=
  if path = "/dev/stdout".toList then e.show s true
  else { e with written := (path, s ++ ['\n']) :: e.written }

/-- The place behind the label of a name; the end of the program without a name. -/
def labelPlace (p : Program) (name : List Char) : Nat :=
  if name.isEmpty then p.size
  else
    (p.findIdx? fun s =>
      match s.action with
      | .label n => n == name
      | _ => false).getD p.size

/-- What a step does, and what follows it. -/
def Editor.perform (job : Job) (e : Editor) (i : Nat) (s : Step) : Editor × Flow :=
  let next : Flow := .goOn (i + 1)
  match s.action with
  | .block _ | .nothing | .label _ => (e, next)
  | .substitute sub =>
    match e.regex sub.regex with
    | none => (e, next)
    | some r =>
      let (line, found) := sub.apply r e.space
      let e := { e with space := line, last := some r, replaced := e.replaced || found }
      let e := if found && sub.shows then e.show e.space true else e
      (match found, sub.file with
        | true, some path => e.write path e.space
        | _, _ => e, next)
  | .replaceChars table =>
    ({ e with space := e.space.map fun c => (table.lookup c).getD c }, next)
  | .delete => (e, .nextLine)
  | .deleteFirst =>
    if e.space.contains '\n' then
      ({ e with space := e.space.drop ((firstLine e.space).length + 1) }, .again)
    else (e, .nextLine)
  | .show => (e.show e.space true, next)
  | .showFirst => (e.show (firstLine e.space) true, next)
  | .showNumber => (e.show (Nat.toDigits 10 e.number) true, next)
  | .showVisibly =>
    (e.show (wrapped 70 e.space.length (visibly e.space ++ ['$'])) true, next)
  | .showName =>
    (e.show (if e.file = ['-'] then ['-'] else e.file) true, next)
  | .next =>
    if e.input.isEmpty then
      ((if job.silent then e else e.show e.space e.feed).flush job, .stop 0)
    else
      let e := (if job.silent then e else e.show e.space e.feed).flush job
      (e.take?.getD e, next)
  | .addNext =>
    match (e.flush job).take? with
    | none => ((if job.silent then e else e.show e.space e.feed).flush job, .stop 0)
    | some f => ({ f with space := e.space ++ '\n' :: f.space }, next)
  | .hold => ({ e with held := e.space }, next)
  | .addToHold => ({ e with held := e.held ++ '\n' :: e.space }, next)
  | .fetch => ({ e with space := e.held }, next)
  | .addFetched => ({ e with space := e.space ++ '\n' :: e.held }, next)
  | .exchange => ({ e with space := e.held, held := e.space }, next)
  | .empty => ({ e with space := [] }, next)
  | .append text => ({ e with queue := e.queue ++ [.text text] }, next)
  | .insert text => (e.showText text, next)
  | .change text =>
    let isOver := s.negated || s.last.isNone || !e.active.any fun a => a.1 = i
    (if isOver then e.showText text else e, .nextLine)
  | .appendFile path => ({ e with queue := e.queue ++ [.file path] }, next)
  | .writeFile path => (e.write path e.space, next)
  | .writeFirst path => (e.write path (firstLine e.space), next)
  | .quit shows status =>
    (if shows then (if job.silent then e else e.show e.space e.feed).flush job else e, .stop status)
  | .jump name onReplaced =>
    let place := labelPlace job.program name
    match onReplaced with
    | none => (e, .goOn place)
    | some wanted =>
      let goes := e.replaced == wanted
      ({ e with replaced := false }, if goes then .goOn place else next)

/-- Goes through the steps from a place on, until the line is done. Each step takes one of the
`fuel`, and what is left of it comes back. -/
def Editor.steps (job : Job) : (fuel : Nat) → Editor → Nat → Editor × Flow × Nat
  | 0, e, _ => (e, .timeUp, 0)
  | fuel + 1, e, i =>
    match job.program[i]? with
    | none => (e, .goOn i, fuel)
    | some s =>
      let (here, e) := e.selects i s
      let (e, flow) :=
        if here != s.negated then e.perform job i s
        else
          match s.action with
          | .block finish => (e, .goOn finish)
          | _ => (e, .goOn (i + 1))
      match flow with
      | .goOn place => steps job fuel e place
      | flow => (e, flow, fuel)

/-- Edits the lines that are left, if `fresh`, or else the current one and those: the exit code, if
there is time enough. -/
def Editor.lines (job : Job) : (rounds fuel : Nat) → (fresh : Bool) → Editor → Editor × Option Nat
  | 0, _, _, e => (e, none)
  | rounds + 1, fuel, fresh, e =>
    match if fresh then e.take? else some e with
    | none => (e, some 0)
    | some e =>
      let (e, flow, fuel) := steps job fuel (if fresh then { e with replaced := false } else e) 0
      match flow with
      | .goOn _ =>
        lines job rounds fuel true ((if job.silent then e else e.show e.space e.feed).flush job)
      | .nextLine => lines job rounds fuel true (e.flush job)
      | .again => lines job rounds fuel false (e.flush job)
      | .stop status => (e, some status)
      | .timeUp => (e, none)

/-- How many steps a program may go through. -/
def maxSteps : Nat := 1000000

/-- Edits lines: the state at the end, and the exit code if there was time enough. -/
def edit (job : Job) (held : List Char) (input : List InputLine) : Editor × Option Nat :=
  Editor.lines job (maxSteps + input.length) maxSteps true
    ⟨[], true, held, 0, [], input, [], [], false, none, [], false, []⟩

/-- The text that was shown. -/
def Editor.output (e : Editor) : List Char := e.shown.reverse.flatten

/-- The label that a program leads to and does not have. -/
def missingLabel? (p : Program) : Option (List Char) :=
  p.toList.findSome? fun s =>
    match s.action with
    | .jump name _ => if !name.isEmpty && labelPlace p name = p.size then some name else none
    | _ => none

/-- The files that a program writes to. -/
def filesOf (p : Program) : List (List Char) :=
  p.toList.filterMap fun s =>
    match s.action with
    | .writeFile path | .writeFirst path => some path
    | .substitute sub => sub.file
    | _ => none

end Editing
end Shell
end Autograder
