import ScriptDocs.Value.Pool
import ScriptDocs.Yaml.Node.Merge
import ScriptDocs.Yaml.Node.Parser
import ScriptDocs.Yaml.Scalar

namespace ScriptDocs.Yaml

/-!
The content of a YAML text. A node is made into an item once, and its aliases are that item. A collection
is made empty and waits until those that came before it are filled; so the faults of a document show
level by level, and a collection can become a part of itself.
-/

/-- The state of making items: the nodes, the containers, the items of the nodes that are made, and the
collections that wait to be filled, or waited, with the numbers of their containers. -/
structure Workshop where
  graph : Graph
  pool : Pool
  made : Array (Option Item)
  waiting : Array (NodeId × Nat)

abbrev Making (α : Type) := StateT Workshop (Except Fault) α

/-- The most mappings with default values inside one another. -/
def defaultLimit : Nat := 984

/-- The text of a node that is used as a scalar: a mapping can have a default value. -/
def Graph.scalarText (graph : Graph) : Nat → NodeId → Except Fault Text
  | 0, _ => .error .tooDeep
  | levels + 1, id =>
      match graph.get id with
      | .scalar _ text => .ok text
      | .sequence _ _ => .error .malformed
      | .mapping _ entries =>
          match entries.find? (fun entry => graph.tag entry.1 == .value) with
          | some (_, value) => graph.scalarText levels value
          | none => .error .malformed

namespace Making

/-- The container of a tag that stands for a collection, with nothing in it. -/
def emptyContainer? : Tag → Option Container
  | .seq => some (.list [])
  | .omap => some (.pairs [])
  | .pairs => some (.pairs [])
  | .map => some (.mapping [])
  | .set => some (.set [])
  | _ => none

/-- The atom of a text with a tag. -/
def atom (tag : Tag) (text : Text) : Except Fault Atom :=
  match tag with
  | .null => .ok .null
  | .bool => (Scalar.truth text).map .bool
  | .int => (Scalar.integer text).map .int
  | .float => (Scalar.real text).map .real
  | .binary => (Scalar.bytes text).map .bytes
  | .timestamp => Scalar.moment text
  | .str => .ok (.text text)
  | _ => .error .malformed

def isAtomTag (tag : Tag) : Bool :=
  [Tag.null, .bool, .int, .float, .binary, .timestamp, .str].contains tag

/-- The item of a node whose tag stands for no collection. What is not a number is made anew for its
node, unless it is written as the word for it. A mapping is no timestamp, even with a default value. -/
def atomItem (graph : Graph) (id : NodeId) : Except Fault Item := do
  let node := graph.get id
  if !isAtomTag node.tag then throw .malformed
  let text ← graph.scalarText defaultLimit id
  if node.tag == .timestamp && node.isMapping then throw .timestampOfMapping
  let content ← atom node.tag text
  if content == .real .notANumber && !Scalar.isNotANumberWord text then return .unlike id
  else return .atom content

/-- Adds an empty container for a node, which waits to be filled. -/
def collectionItem (id : NodeId) (container : Container) : Making Item :=
  modifyGet (fun workshop =>
    let (pool, number) := workshop.pool.add container
    (.container number, { workshop with pool, waiting := workshop.waiting.push (id, number) }))

/-- The item of a node, which is made if it has not been made before. -/
def item (id : NodeId) : Making Item := do
  let workshop ← get
  match workshop.made.getD id none with
  | some item => return item
  | none =>
      let item ←
        match emptyContainer? (workshop.graph.tag id) with
        | some container => collectionItem id container
        | none => liftM (atomItem workshop.graph id)
      modify (fun workshop => { workshop with made := workshop.made.setIfInBounds id (some item) })
      return item

def pair (entry : NodeId × NodeId) : Making (Item × Item) := do
  let left ← item entry.1
  let right ← item entry.2
  return (left, right)

/-- The items of an entry of a mapping, whose key must not be a container. -/
def keyed (entry : NodeId × NodeId) : Making (Item × Item) := do
  let key ← item entry.1
  if !key.isKey then throw .malformed
  let value ← item entry.2
  return (key, value)

/-- The pair of a node that must be a mapping of one entry. -/
def onlyPair (id : NodeId) : Making (Item × Item) := do
  match (← get).graph.get id with
  | .mapping _ [entry] => pair entry
  | _ => throw .malformed

def merge (fuel : Nat) (id : NodeId) : Making Unit := do
  let workshop ← get
  let (_, graph) ← liftM ((Reshaping.resolve fuel id).run workshop.graph)
  set { workshop with graph }

/-- The entries of a node that must be a mapping. -/
def entriesOf (fuel : Nat) (id : NodeId) : Making Entries := do
  if !((← get).graph.get id).isMapping then throw .malformed
  merge fuel id
  let settings ← ((← get).graph.get id).entries.mapM keyed
  return Entries.build settings

/-- The items of a node that must be a sequence; each is made by `part`. -/
def partsOf {α : Type} (part : NodeId → Making α) (id : NodeId) : Making (List α) := do
  match (← get).graph.get id with
  | .sequence _ items => items.mapM part
  | _ => throw .malformed

/-- What is to be in the container of a node. -/
def filled (fuel : Nat) (id : NodeId) : Making Container := do
  match (← get).graph.tag id with
  | .seq => return .list (← partsOf item id)
  | .omap | .pairs => return .pairs (← partsOf onlyPair id)
  | .set => return .set ((← entriesOf fuel id).map Prod.fst)
  | _ => return .mapping (← entriesOf fuel id)

/-- Fills the collections that wait, from the one at `turn` on. A node waits once at most, so that `count`
need not exceed the number of nodes. `fuel` is for merge keys. -/
def fillFrom (fuel : Nat) : Nat → Nat → Making Unit
  | 0, _ => return
  | count + 1, turn => do
      match (← get).waiting[turn]? with
      | none => return
      | some (id, number) =>
          let container ← filled fuel id
          modify (fun workshop => { workshop with pool := workshop.pool.set number container })
          fillFrom fuel count (turn + 1)

end Making

def Graph.content (graph : Graph) (root : NodeId) : Except Fault Content := do
  let count := graph.nodes.size
  let workshop : Workshop :=
    { graph, pool := {}, made := Array.replicate count none, waiting := #[] }
  let making : Making Item := do
    let item ← Making.item root
    Making.fillFrom (graph.mergeCount + 1) count 0
    return item
  let (item, workshop) ← making.run workshop
  return { pool := workshop.pool, item }

/-- The content of a text. -/
def parse (text : Text) : Except Fault Content := do
  let (graph, root) ← Graph.ofText text
  graph.content root

end ScriptDocs.Yaml
