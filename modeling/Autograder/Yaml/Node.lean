/-
# YAML documents

The tree that a list of tokens spells out. A node with an anchor is kept under a number: how many
different names of anchors come before it. So the second node of a name and the first one of the next
new name may share a number, and then an alias leads to the later of them, even where that comes
after the alias. A text holds one document or none.
-/

import Autograder.Yaml.Token

namespace Autograder
namespace Yaml

/-- A node of a document. A tag is kept with a scalar only, where it can matter. -/
inductive Node where
  | scalar (tag : Option String) (style : Style) (text : String)
  | sequence (items : List Node)
  | mapping (entries : List (Node × Node))
  | alias (anchor : Nat)

/-- Where nothing is written, a node is an empty plain scalar. -/
def Node.empty : Node := .scalar none .plain ""

/-- A document: its root, and the nodes that have anchors. -/
structure Document where
  root : Node
  anchored : List (Nat × Node)

/-- The node that an alias stands for; any other node stands for itself. -/
def Document.resolve (d : Document) : Node → Option Node
  | .alias anchor => d.anchored.lookup anchor
  | node => some node

/-- The reading of a document: the tokens left, the last number of each name of an anchor, the numbers
of the anchors so far, the last one first, the nodes that are known to have them, by their places among
the anchors, and the tag handles. -/
structure Source where
  tokens : List Token
  names : List (String × Nat)
  numbers : List Nat
  nodes : List (Nat × Node)
  handles : List (String × String)

/-- A step of the reading of a document. -/
abbrev Reading := StateT Source (Except Fault)

namespace Reading

/-- A failed step. -/
def fail {α : Type} (e : Fault) : Reading α := fun _ => .error e

/-- The next token. -/
def peek : Reading (Option Token) := fun s => .ok (s.tokens.head?, s)

/-- Passes over the next token. -/
def pop : Reading Unit := fun s => .ok ((), { s with tokens := s.tokens.drop 1 })

/-- An alias of a name that an anchor has. -/
def aliasOf (name : String) : Reading Node := fun s =>
  match s.names.lookup name with
  | some number => .ok (.alias number, s)
  | none => .error .unknownAnchor

/-- Takes note of an anchor; gives its place among the anchors. -/
def define (name : String) : Reading Nat := fun s =>
  let number := s.names.length
  .ok (s.numbers.length,
    { s with
      names := (name, number) :: s.names.filter fun n => n.1 ≠ name
      numbers := number :: s.numbers })

/-- Takes note of the node that has an anchor. -/
def keep (place : Nat) (node : Node) : Reading Unit := fun s =>
  .ok ((), { s with nodes := (place, node) :: s.nodes })

/-- The nodes that have anchors by their numbers, the last one first. -/
def anchored (s : Source) : List (Nat × Node) :=
  (s.numbers.reverse.zipIdx.filterMap fun (number, place) =>
    (s.nodes.lookup place).map fun node => (number, node)).reverse

/-- The tag that a handle and a rest stand for. -/
def tagOf (handle rest : String) : Reading String := fun s =>
  if handle.isEmpty then .ok (rest, s)
  else
    match s.handles.lookup handle with
    | some uri => .ok (uri ++ rest, s)
    | none => .error .unknownTagHandle

end Reading

open Reading

/-- The anchor and the tag in front of a node, in either order. -/
def readProperties : Reading (Option String × Option String) := do
  match ← peek with
  | some (.anchor name) =>
    pop
    match ← peek with
    | some (.tag handle rest) =>
      pop
      pure (some name, some (← tagOf handle rest))
    | _ => pure (some name, none)
  | some (.tag handle rest) =>
    pop
    match ← peek with
    | some (.anchor name) =>
      pop
      pure (some name, some (← tagOf handle rest))
    | _ => pure (none, some (← tagOf handle rest))
  | _ => pure (none, none)

mutual

/-- A node. Collections without brackets may start here only if `block` holds, and items without
indentation only if `flush` holds. -/
def readNode : Nat → Bool → Bool → Reading Node
  | 0, _, _ => fail .tooDeep
  | fuel + 1, block, flush => do
    match ← peek with
    | some (.alias name) =>
      pop
      aliasOf name
    | _ =>
      let (name, tag) ← readProperties
      let place ← name.mapM define
      let node ← readContent fuel block flush (name.isSome || tag.isSome) tag
      match place with
      | some place => keep place node
      | none => pure ()
      pure node

/-- A node behind its anchor and its tag. If it has one of them at least, as `marked` tells, nothing
else needs to be written. -/
def readContent : Nat → Bool → Bool → Bool → Option String → Reading Node
  | 0, _, _, _, _ => fail .tooDeep
  | fuel + 1, block, flush, marked, tag => do
    let next ← peek
    match next, block, flush with
    | some .blockEntry, _, true => readFlushItems fuel []
    | some (.scalar style text), _, _ =>
      pop
      -- The tag "!" stays on the scalar, too: "! ~" is the text "~", and not nothing.
      pure (.scalar tag style text)
    | some .flowSequenceStart, _, _ =>
      pop
      readFlowItems fuel []
    | some .flowMappingStart, _, _ =>
      pop
      readFlowMembers fuel []
    | some .blockSequenceStart, true, _ =>
      pop
      readBlockItems fuel []
    | some .blockMappingStart, true, _ =>
      pop
      readBlockMembers fuel []
    | _, _, _ => if marked then pure (.scalar tag .plain "") else fail .unexpectedToken

/-- The items of an indented sequence, after those of `done`, which stand in reverse. -/
def readBlockItems : Nat → List Node → Reading Node
  | 0, _ => fail .tooDeep
  | fuel + 1, done => do
    match ← peek with
    | some .blockEntry =>
      pop
      match ← peek with
      | some .blockEntry | some .blockEnd => readBlockItems fuel (.empty :: done)
      | _ =>
        let node ← readNode fuel true false
        readBlockItems fuel (node :: done)
    | some .blockEnd =>
      pop
      pure (.sequence done.reverse)
    | _ => fail .unexpectedToken

/-- The items of a sequence that is not indented more than the key before it. -/
def readFlushItems : Nat → List Node → Reading Node
  | 0, _ => fail .tooDeep
  | fuel + 1, done => do
    match ← peek with
    | some .blockEntry =>
      pop
      match ← peek with
      | some .blockEntry | some .key | some .value | some .blockEnd =>
        readFlushItems fuel (.empty :: done)
      | _ =>
        let node ← readNode fuel true false
        readFlushItems fuel (node :: done)
    | _ => pure (.sequence done.reverse)

/-- What stands behind the mark of a key or of a value in an indented mapping. -/
def readBlockSide : Nat → Reading Node
  | 0 => fail .tooDeep
  | fuel + 1 => do
    match ← peek with
    | some .key | some .value | some .blockEnd => pure .empty
    | _ => readNode fuel true true

/-- The members of an indented mapping, after those of `done`, which stand in reverse. -/
def readBlockMembers : Nat → List (Node × Node) → Reading Node
  | 0, _ => fail .tooDeep
  | fuel + 1, done => do
    match ← peek with
    | some .key =>
      pop
      let key ← readBlockSide fuel
      match ← peek with
      | some .value =>
        pop
        let value ← readBlockSide fuel
        readBlockMembers fuel ((key, value) :: done)
      | _ => readBlockMembers fuel ((key, .empty) :: done)
    | some .blockEnd =>
      pop
      pure (.mapping done.reverse)
    | _ => fail .unexpectedToken

/-- The value of a pair between brackets, if there is a colon, up to a comma or the bracket. -/
def readFlowValue : Nat → Token → Reading Node
  | 0, _ => fail .tooDeep
  | fuel + 1, closing => do
    match ← peek with
    | some .value =>
      pop
      match ← peek with
      | some .flowEntry => pure .empty
      | next => if next = some closing then pure .empty else readNode fuel false false
    | _ => pure .empty

/-- An item between square brackets: a node, or a mapping of a single pair. -/
def readFlowItem : Nat → Reading Node
  | 0 => fail .tooDeep
  | fuel + 1 => do
    match ← peek with
    | some .key =>
      pop
      match ← peek with
      | some .value | some .flowEntry | some .flowSequenceEnd =>
        pop
        let value ← readFlowValue fuel .flowSequenceEnd
        pure (.mapping [(.empty, value)])
      | _ =>
        let key ← readNode fuel false false
        let value ← readFlowValue fuel .flowSequenceEnd
        pure (.mapping [(key, value)])
    | _ => readNode fuel false false

/-- The items between square brackets, after those of `done`, which stand in reverse. -/
def readFlowItems : Nat → List Node → Reading Node
  | 0, _ => fail .tooDeep
  | fuel + 1, done => do
    match done, ← peek with
    | _, some .flowSequenceEnd =>
      pop
      pure (.sequence done.reverse)
    | [], _ =>
      let item ← readFlowItem fuel
      readFlowItems fuel [item]
    | _, some .flowEntry =>
      pop
      match ← peek with
      | some .flowSequenceEnd =>
        pop
        pure (.sequence done.reverse)
      | _ =>
        let item ← readFlowItem fuel
        readFlowItems fuel (item :: done)
    | _, _ => fail .unexpectedToken

/-- A member between braces. A node that is not marked as a key has no value. -/
def readFlowMember : Nat → Reading (Node × Node)
  | 0 => fail .tooDeep
  | fuel + 1 => do
    match ← peek with
    | some .key =>
      pop
      match ← peek with
      | some .value | some .flowEntry | some .flowMappingEnd =>
        let value ← readFlowValue fuel .flowMappingEnd
        pure (.empty, value)
      | _ =>
        let key ← readNode fuel false false
        let value ← readFlowValue fuel .flowMappingEnd
        pure (key, value)
    | _ =>
      let key ← readNode fuel false false
      pure (key, .empty)

/-- The members between braces, after those of `done`, which stand in reverse. -/
def readFlowMembers : Nat → List (Node × Node) → Reading Node
  | 0, _ => fail .tooDeep
  | fuel + 1, done => do
    match done, ← peek with
    | _, some .flowMappingEnd =>
      pop
      pure (.mapping done.reverse)
    | [], _ =>
      let member ← readFlowMember fuel
      readFlowMembers fuel [member]
    | _, some .flowEntry =>
      pop
      match ← peek with
      | some .flowMappingEnd =>
        pop
        pure (.mapping done.reverse)
      | _ =>
        let member ← readFlowMember fuel
        readFlowMembers fuel (member :: done)
    | _, _ => fail .unexpectedToken

end

/-- The tag handles that need no directive. -/
def defaultHandles : List (String × String) := [("!", "!"), ("!!", "tag:yaml.org,2002:")]

/-- The directives before a document: at most one of a version, and at most one for each handle. -/
def readDirectives : Nat → Bool → List (String × String) → Reading (List (String × String))
  | 0, _, handles => pure handles
  | fuel + 1, versionSeen, handles => do
    match ← peek with
    | some (.version major minor) =>
      pop
      if versionSeen || major ≠ 1 || (minor ≠ 1 && minor ≠ 2) then fail .badDirective
      else readDirectives fuel true handles
    | some (.tagHandle handle uri) =>
      pop
      if handles.any fun h => h.1 == handle then fail .badDirective
      else readDirectives fuel versionSeen ((handle, uri) :: handles)
    | _ => pure handles

/-- Passes over the marks at the end of a document. -/
def skipEndMarks : Nat → Reading Unit
  | 0 => pure ()
  | fuel + 1 => do
    match ← peek with
    | some .documentEnd =>
      pop
      skipEndMarks fuel
    | _ => pure ()

/-- A document behind its start mark. -/
def readMarked (fuel : Nat) : Reading Node := do
  match ← peek with
  | none | some (.version _ _) | some (.tagHandle _ _) | some .documentStart | some .documentEnd =>
    pure .empty
  | _ => readNode fuel true false

/-- A document with its directives and its start mark, or with neither. -/
def readRoot (fuel : Nat) : Reading Node := do
  match ← peek with
  | some (.version _ _) | some (.tagHandle _ _) | some .documentStart =>
    let handles ← readDirectives fuel false []
    modify fun s => { s with handles := handles ++ defaultHandles }
    match ← peek with
    | some .documentStart =>
      pop
      readMarked fuel
    | _ => fail .missingDocumentStart
  | _ => readNode fuel true false

/-- The only document of a text. -/
def readOnly (fuel : Nat) : Reading Document := do
  let root ← readRoot fuel
  skipEndMarks fuel
  match ← peek with
  | none => fun s => .ok (⟨root, anchored s⟩, s)
  | some _ => fail .severalDocuments

/-- The document that a text holds; `none` if there is none. -/
def read (text : String) : Except Fault (Option Document) := do
  match ← tokens text with
  | [] => .ok none
  | ts =>
    let fuel := 4 * ts.length + 8
    (readOnly fuel ⟨ts, [], [], [], defaultHandles⟩).map fun (d, _) => some d

end Yaml
end Autograder
