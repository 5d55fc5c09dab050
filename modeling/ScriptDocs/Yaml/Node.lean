import ScriptDocs.Yaml.Tag

namespace ScriptDocs.Yaml

/-!
The nodes of a YAML document make up a graph: nodes are numbered, and a collection holds the numbers of
its parts. An alias is the number of the node that it names, so that a node can be a part of several
collections, and of itself.
-/

abbrev NodeId := Nat

inductive Node where
  | scalar (tag : Tag) (text : Text)
  | sequence (tag : Tag) (items : List NodeId)
  | mapping (tag : Tag) (entries : List (NodeId × NodeId))
  deriving DecidableEq, Repr, Inhabited

namespace Node

def tag : Node → Tag
  | .scalar tag _ => tag
  | .sequence tag _ => tag
  | .mapping tag _ => tag

def withTag (tag : Tag) : Node → Node
  | .scalar _ text => .scalar tag text
  | .sequence _ items => .sequence tag items
  | .mapping _ entries => .mapping tag entries

def isMapping : Node → Bool
  | .mapping _ _ => true
  | _ => false

/-- The entries of a mapping; other nodes have none. -/
def entries : Node → List (NodeId × NodeId)
  | .mapping _ entries => entries
  | _ => []

def withEntries (entries : List (NodeId × NodeId)) : Node → Node
  | .mapping tag _ => .mapping tag entries
  | node => node

/-- The node that stands for nothing at all. -/
def empty : Node :=
  .scalar .null []

end Node

/-- Nodes by their numbers. -/
structure Graph where
  nodes : Array Node := #[]
  deriving Repr, Inhabited

namespace Graph

def get (graph : Graph) (id : NodeId) : Node :=
  graph.nodes.getD id .empty

def set (graph : Graph) (id : NodeId) (node : Node) : Graph :=
  { nodes := graph.nodes.setIfInBounds id node }

def add (graph : Graph) (node : Node) : Graph × NodeId :=
  ({ nodes := graph.nodes.push node }, graph.nodes.size)

def tag (graph : Graph) (id : NodeId) : Tag :=
  (graph.get id).tag

end Graph

end ScriptDocs.Yaml
