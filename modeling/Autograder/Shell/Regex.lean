/-
# Regular expressions

A regular expression and where it matches a text: at the first place possible, and there as far as
possible. What a group has matched can be asked for again, inside the expression and afterwards.
From a place in the text the matcher finds all places where a match can end; of the ways to one of
these it keeps the first, where each part has taken as much as it could.
-/

namespace Autograder
namespace Shell

/-- A place in a text that a regular expression can ask for. -/
inductive Edge where
  | textStart
  | textEnd
  | wordStart
  | wordEnd
  | wordEdge
  | noWordEdge
  deriving DecidableEq

/-- A regular expression. -/
inductive Regex where
  | empty
  | char (c : Char)
  | any
  /-- Any of some characters. -/
  | set (members : List Char)
  | edge (e : Edge)
  | seq (first second : Regex)
  | alt (first second : Regex)
  | loop (r : Regex) (least : Nat) (most : Option Nat)
  /-- A part whose match is kept under a number. -/
  | group (number : Nat) (r : Regex)
  /-- What a group has matched, once more. -/
  | again (number : Nat)

namespace Regex

/-- A place in a text that a match has come to, and what the groups have matched on the way. -/
structure Reached where
  place : Nat
  groups : List (Nat × Nat × Nat)

/-- Where a regular expression matches, and what its groups match there. -/
structure Match where
  start : Nat
  finish : Nat
  groups : List (Nat × Nat × Nat)

/-- A letter, a digit or an underscore. -/
def isWordChar (c : Char) : Bool := c.isAlphanum || c == '_'

/-- A place in a text is of a kind. -/
def isAt (text : Array Char) (place : Nat) (e : Edge) : Bool :=
  let before := 0 < place && (text[place - 1]?).any isWordChar
  let after := (text[place]?).any isWordChar
  match e with
  | .textStart => place = 0
  | .textEnd => place = text.size
  | .wordStart => !before && after
  | .wordEnd => before && !after
  | .wordEdge => before != after
  | .noWordEdge => before == after

/-- Ways without those to a place that an earlier one leads to, the farthest first. -/
def farthestFirst (ways : List Reached) : List Reached :=
  let ordered := ways.mergeSort fun a b => decide (b.place ≤ a.place)
  (ordered.foldl (fun kept w =>
    match kept with
    | k :: _ => if k.place = w.place then kept else w :: kept
    | [] => [w]) []).reverse

/-- The text of a group goes on at a place: the place behind it. -/
def repeatedAt (text : Array Char) (w : Reached) (number : Nat) : Option Nat :=
  (w.groups.lookup number).bind fun (start, finish) =>
    let n := finish - start
    if (List.range n).all (fun i => text[start + i]? == text[w.place + i]?) &&
      w.place + n ≤ text.size then some (w.place + n) else none

/-- All places that some steps of a kind lead to, at least and at most so many. The last steps have
led to `front`, and `seen` holds what counts already. -/
def closure (step : Reached → List Reached) (least : Nat) (most : Option Nat) :
    (fuel count : Nat) → (front seen : List Reached) → List Reached
  | 0, _, _, seen => seen
  | fuel + 1, count, front, seen =>
    if front.isEmpty then seen
    else
      let counts := decide (least ≤ count)
      let seen := if counts then front ++ seen else seen
      if most.any (· ≤ count) then seen
      else
        let next := farthestFirst (front.flatMap step)
        let isNew (w : Reached) : Bool := seen.all fun s => s.place != w.place
        let next := if counts then next.filter isNew else next
        closure step least most fuel (count + 1) next seen

/-- All ways on from a place: the farthest first, and one for each place. -/
def ways (text : Array Char) : Regex → Reached → List Reached
  | .empty, w => [w]
  | .char c, w =>
    if text[w.place]? == some c then [{ w with place := w.place + 1 }] else []
  | .any, w => if w.place < text.size then [{ w with place := w.place + 1 }] else []
  | .set members, w =>
    if (text[w.place]?).any members.contains then [{ w with place := w.place + 1 }] else []
  | .edge e, w => if isAt text w.place e then [w] else []
  | .seq a b, w => farthestFirst ((ways text a w).flatMap (ways text b))
  | .alt a b, w => farthestFirst (ways text a w ++ ways text b w)
  | .loop r least most, w =>
    farthestFirst (closure (ways text r) least most (text.size + least + 2) 0 [w] []).reverse
  | .group n r, w =>
    (ways text r w).map fun v =>
      { v with groups := (n, w.place, v.place) :: v.groups.filter fun g => g.1 != n }
  | .again n, w =>
    match repeatedAt text w n with
    | some place => [{ w with place := place }]
    | none => []

/-- The match at a place, if there is one. -/
def matchAt? (r : Regex) (text : Array Char) (place : Nat) : Option Match :=
  (ways text r ⟨place, []⟩).head?.map fun w => ⟨place, w.place, w.groups⟩

/-- The first match at or behind a place. -/
def find? (r : Regex) (text : Array Char) (place : Nat) : Option Match :=
  (List.range (text.size + 1 - place)).findSome? fun n => r.matchAt? text (place + n)

/-- The text between two places. -/
def slice (text : Array Char) (start finish : Nat) : List Char := (text.extract start finish).toList

/-- What a group has matched; the whole match is that of group 0. -/
def Match.group (m : Match) (text : Array Char) (n : Nat) : List Char :=
  if n = 0 then slice text m.start m.finish
  else
    match m.groups.lookup n with
    | some (start, finish) => slice text start finish
    | none => []

/-- The matches that follow each other, where an empty one does not touch the one before. Each begins
where or behind where the one before has ended. -/
def matchesFrom (r : Regex) (text : Array Char) : (fuel place : Nat) → (last : Option Nat) →
    List Match
  | 0, _, _ => []
  | fuel + 1, place, last =>
    if text.size < place then []
    else
      match r.find? text place with
      | none => []
      | some m =>
        if m.start = m.finish && last == some m.start then matchesFrom r text fuel (place + 1) none
        else
          let next := if m.start = m.finish then m.finish + 1 else m.finish
          m :: matchesFrom r text fuel next (some m.finish)

/-- All matches that follow each other. -/
def allMatches (r : Regex) (text : Array Char) : List Match :=
  matchesFrom r text (2 * text.size + 2) 0 none

end Regex
end Shell
end Autograder
