import ScriptDocs.Yaml.Node
import ScriptDocs.Yaml.Token.Lexer

namespace ScriptDocs.Yaml

/-!
From tokens to the graph of the one document that they make up. Nodes are read by recursive descent; a
collection gets its number, and its anchor is remembered, before its parts are read, so that an alias
among them can name it.
-/

/-- What nodes are read from: the tokens that are left, the fault that comes after them, what the
handles of tags stand for, the anchors, and the nodes so far. -/
structure Supply where
  tokens : List Token
  fault : Fault
  handles : List (Text × Text)
  anchors : List (Text × NodeId)
  graph : Graph

abbrev Parsing (α : Type) := StateT Supply (Except Fault) α

/-- Where a node stands: inside brackets, in a block, or as a part of a block mapping, where the items of
a sequence need no indentation. -/
inductive Place where
  | flow
  | block
  | part
  deriving DecidableEq, Repr

/-- How many collections can be inside one another. -/
def nestingLimit : Nat := 490

/-- The handles that need no directive. -/
def standardHandles : List (Text × Text) :=
  [("!".toList, "!".toList), ("!!".toList, Tag.standardStart)]

namespace Parsing

def refuse {α : Type} : Parsing α :=
  throw .malformed

/-- The next token, which stays. -/
def peek : Parsing Token := do
  let supply ← get
  match supply.tokens with
  | token :: _ => return token
  | [] => throw supply.fault

def advance : Parsing Unit :=
  modify (fun supply => { supply with tokens := supply.tokens.drop 1 })

/-- Passes over a token, if it is next, and tells whether it was. -/
def accept (token : Token) : Parsing Bool := do
  if (← peek) == token then
    advance
    return true
  else return false

/-- Reads an anchor, if one is next. -/
def anchor? : Parsing (Option Text) := do
  match ← peek with
  | .anchor name => advance; return some name
  | _ => return none

/-- Reads a tag, if one is next, and gives its handle and the rest of it. -/
def tag? : Parsing (Option (Option Text × Text)) := do
  match ← peek with
  | .tag handle suffix => advance; return some (handle, suffix)
  | _ => return none

/-- The written form of a tag with its handle replaced. -/
def expand : Option Text × Text → Parsing Text
  | (none, suffix) => return suffix
  | (some handle, suffix) => do
      match (← get).handles.lookup handle with
      | some expansion => return expansion ++ suffix
      | none => refuse

/-- Reads an anchor and a tag, in either order; each may be missing. -/
def properties : Parsing (Option Text × Option Text) := do
  let first ← anchor?
  let tag ← tag?
  let anchor ← if first.isNone && tag.isSome then anchor? else pure first
  match tag with
  | some tag => return (anchor, some (← expand tag))
  | none => return (anchor, none)

def scalarTag (tag : Option Text) (text : Text) (plain : Bool) : Tag :=
  match tag with
  | some written => if written == ['!'] then .ofPlain text else .ofText written
  | none => if plain then .ofPlain text else .str

def collectionTag (tag : Option Text) (otherwise : Tag) : Tag :=
  match tag with
  | some written => if written == ['!'] then otherwise else .ofText written
  | none => otherwise

def add (node : Node) : Parsing NodeId :=
  modifyGet (fun supply =>
    let (graph, id) := supply.graph.add node
    (id, { supply with graph }))

/-- Adds the node that stands for nothing at all. -/
def nothing : Parsing NodeId :=
  add .empty

def replace (id : NodeId) (node : Node) : Parsing Unit :=
  modify (fun supply => { supply with graph := supply.graph.set id node })

/-- Remembers the node of an anchor. -/
def remember (anchor : Option Text) (id : NodeId) : Parsing Unit :=
  match anchor with
  | some name => modify (fun supply => { supply with anchors := (name, id) :: supply.anchors })
  | none => return

/-- Refuses an anchor that is known already. -/
def checkNew (anchor : Option Text) : Parsing Unit := do
  match anchor with
  | some name => if ((← get).anchors.lookup name).isSome then refuse
  | none => return

def nodeOf (name : Text) : Parsing NodeId := do
  match (← get).anchors.lookup name with
  | some id => return id
  | none => refuse

def scalar (anchor tag : Option Text) (text : Text) (plain : Bool) : Parsing NodeId := do
  checkNew anchor
  let id ← add (.scalar (scalarTag tag text plain) text)
  remember anchor id
  return id

/-- Adds a collection and reads its parts, where there is room for one collection less. `fill` gives the
node with parts in it. -/
def collection {α : Type} (anchor : Option Text) (fill : List α → Node) (room : Nat)
    (parts : Nat → Parsing (List α)) : Parsing NodeId := do
  checkNew anchor
  let id ← add (fill [])
  remember anchor id
  match room with
  | 0 => throw .tooDeep
  | room + 1 =>
      let content ← parts room
      replace id (fill content)
      return id

def sequence (anchor tag : Option Text) (room : Nat) (items : Nat → Parsing (List NodeId)) :
    Parsing NodeId :=
  collection anchor (.sequence (collectionTag tag .seq)) room items

def mapping (anchor tag : Option Text) (room : Nat)
    (entries : Nat → Parsing (List (NodeId × NodeId))) : Parsing NodeId :=
  collection anchor (.mapping (collectionTag tag .map)) room entries

/-- Reads a node, unless one of some tokens is next: then there is none, and it is empty. -/
def nodeUnless (stops : List Token) (node : Parsing NodeId) : Parsing NodeId := do
  if stops.contains (← peek) then nothing else node

mutual

/-- Reads a node with `room` for so many collections inside one another. Every level, and every item,
takes one off `fuel`. -/
def node (place : Place) (room : Nat) : Nat → Parsing NodeId
  | 0 => refuse
  | fuel + 1 => do
      match ← peek with
      | .alias name =>
          advance
          nodeOf name
      | _ =>
          let (anchor, tag) ← properties
          match ← peek, place with
          | .blockEntry, .part => sequence anchor tag room (fun room => looseItems room fuel)
          | .scalar text plain, _ =>
              advance
              scalar anchor tag text plain
          | .flowSequenceStart, _ =>
              sequence anchor tag room (fun room => do
                advance
                flowItems true room fuel)
          | .flowMappingStart, _ =>
              mapping anchor tag room (fun room => do
                advance
                flowEntries true room fuel)
          | .blockSequenceStart, .block | .blockSequenceStart, .part =>
              sequence anchor tag room (fun room => do
                advance
                blockItems room fuel)
          | .blockMappingStart, .block | .blockMappingStart, .part =>
              mapping anchor tag room (fun room => do
                advance
                blockEntries room fuel)
          | _, _ =>
              if anchor.isSome || tag.isSome then scalar anchor tag [] true
              else refuse
termination_by structural fuel => fuel

/-- Reads the items of a sequence in a block, and its end. -/
def blockItems (room : Nat) : Nat → Parsing (List NodeId)
  | 0 => refuse
  | fuel + 1 => do
      if ← accept .blockEntry then
        let item ← nodeUnless [.blockEntry, .blockEnd] (node .block room fuel)
        return item :: (← blockItems room fuel)
      else if ← accept .blockEnd then return []
      else refuse
termination_by structural fuel => fuel

/-- Reads the items of a sequence that is not indented. -/
def looseItems (room : Nat) : Nat → Parsing (List NodeId)
  | 0 => refuse
  | fuel + 1 => do
      if ← accept .blockEntry then
        let item ← nodeUnless [.blockEntry, .key, .value, .blockEnd] (node .block room fuel)
        return item :: (← looseItems room fuel)
      else return []
termination_by structural fuel => fuel

/-- Reads the entries of a mapping in a block, and its end. -/
def blockEntries (room : Nat) : Nat → Parsing (List (NodeId × NodeId))
  | 0 => refuse
  | fuel + 1 => do
      if ← accept .key then
        let key ← nodeUnless [.key, .value, .blockEnd] (node .part room fuel)
        let value ←
          if ← accept .value then nodeUnless [.key, .value, .blockEnd] (node .part room fuel)
          else nothing
        return (key, value) :: (← blockEntries room fuel)
      else if ← accept .blockEnd then return []
      else refuse
termination_by structural fuel => fuel

/-- Reads the items of a sequence in brackets, and its end. A key in brackets starts a mapping of one
entry. -/
def flowItems (isFirst : Bool) (room : Nat) : Nat → Parsing (List NodeId)
  | 0 => refuse
  | fuel + 1 => do
      if ← accept .flowSequenceEnd then return []
      if !isFirst then
        if !(← accept .flowEntry) then refuse
      if ← accept .key then
        let item ← mapping none none room (fun room => do
          let key ← nodeUnless [.value, .flowEntry, .flowSequenceEnd] (node .flow room fuel)
          let value ←
            if ← accept .value then
              nodeUnless [.flowEntry, .flowSequenceEnd] (node .flow room fuel)
            else nothing
          return [(key, value)])
        return item :: (← flowItems false room fuel)
      else if ← accept .flowSequenceEnd then return []
      else
        let item ← node .flow room fuel
        return item :: (← flowItems false room fuel)
termination_by structural fuel => fuel

/-- Reads the entries of a mapping in braces, and its end. -/
def flowEntries (isFirst : Bool) (room : Nat) : Nat → Parsing (List (NodeId × NodeId))
  | 0 => refuse
  | fuel + 1 => do
      if ← accept .flowMappingEnd then return []
      if !isFirst then
        if !(← accept .flowEntry) then refuse
      if ← accept .key then
        let key ← nodeUnless [.value, .flowEntry, .flowMappingEnd] (node .flow room fuel)
        let value ←
          if ← accept .value then nodeUnless [.flowEntry, .flowMappingEnd] (node .flow room fuel)
          else nothing
        return (key, value) :: (← flowEntries false room fuel)
      else if ← accept .flowMappingEnd then return []
      else
        let key ← node .flow room fuel
        let value ← nothing
        return (key, value) :: (← flowEntries false room fuel)
termination_by structural fuel => fuel

end

/-- Reads directives and sets what handles stand for. `version` tells whether a version was given, and
`handles` holds the handles so far. -/
def directives (version : Bool) (handles : List (Text × Text)) : Nat → Parsing Unit
  | 0 => refuse
  | fuel + 1 => do
      match ← peek with
      | .directive (.version major) =>
          advance
          if version || major != 1 then refuse
          directives true handles fuel
      | .directive (.tagHandle handle expansion) =>
          advance
          if (handles.lookup handle).isSome then refuse
          directives version (handles ++ [(handle, expansion)]) fuel
      | .directive .unknown =>
          advance
          directives version handles fuel
      | _ => modify (fun supply => { supply with handles := handles ++ standardHandles })

/-- Whether a token shows that a document has no content. -/
def endsDocument : Token → Bool
  | .directive _ => true
  | .documentStart => true
  | .documentEnd => true
  | .streamEnd => true
  | _ => false

/-- Passes over the marks that end a document. -/
def documentEnds : Nat → Parsing Unit
  | 0 => return
  | fuel + 1 => do
      if ← accept .documentEnd then documentEnds fuel

/-- Reads a document; a text may have none. -/
def document (fuel : Nat) : Parsing NodeId := do
  match ← peek with
  | .streamEnd => nothing
  | .directive _ | .documentStart =>
      directives false [] fuel
      if !(← accept .documentStart) then refuse
      if endsDocument (← peek) then nothing else node .block nestingLimit fuel
  | _ => node .block nestingLimit fuel

/-- Reads the one document of a text. -/
def onlyDocument (fuel : Nat) : Parsing NodeId := do
  let root ← document fuel
  documentEnds fuel
  if (← peek) != .streamEnd then
    directives false [] fuel
    refuse
  return root

end Parsing

/-- The graph of the one document of a text, and the node at its root. -/
def Graph.ofText (text : Text) : Except Fault (Graph × NodeId) := do
  let lexed := Token.scan text
  let supply : Supply :=
    { tokens := lexed.tokens, fault := lexed.fault.getD .malformed, handles := standardHandles,
      anchors := [], graph := {} }
  let (root, supply) ← (Parsing.onlyDocument (3 * lexed.tokens.length + 3)).run supply
  return (supply.graph, root)

end ScriptDocs.Yaml
