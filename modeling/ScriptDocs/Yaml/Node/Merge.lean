import ScriptDocs.Yaml.Fault
import ScriptDocs.Yaml.Node

namespace ScriptDocs.Yaml

/-!
Merge keys bring the entries of other mappings into the mapping that they stand in. This changes the
mapping itself, wherever else it is a part, and the mappings that it merges, whose own merge keys come
first. Each merge key is taken away before what it brings in is looked at; so a mapping that merges
itself brings in only what is left.
-/

/-- Work on a graph that can find it faulty. -/
abbrev Reshaping (α : Type) := StateT Graph (Except Fault) α

abbrev NodeEntries := List (NodeId × NodeId)

namespace Graph

/-- Whether an entry has a merge key. -/
def merges (graph : Graph) (entry : NodeId × NodeId) : Bool :=
  graph.tag entry.1 == .merge

/-- The number of merge keys of a graph. -/
def mergeCount (graph : Graph) : Nat :=
  graph.nodes.foldl (fun count node => count + node.entries.countP graph.merges) 0

/-- Makes a text of a key that is the sign for a default value. -/
def spellKey (graph : Graph) (key : NodeId) : Graph :=
  if graph.tag key == .value then graph.set key ((graph.get key).withTag .str) else graph

/-- Gives a mapping its entries, all of whose keys stand for themselves. -/
def setEntries (graph : Graph) (id : NodeId) (entries : NodeEntries) : Graph :=
  let graph := graph.set id ((graph.get id).withEntries entries)
  entries.foldl (fun graph entry => graph.spellKey entry.1) graph

end Graph

namespace Reshaping

/-- The entries of a node that must be a mapping, after its own merge keys are resolved by `resolve`. -/
def resolvedEntries (resolve : NodeId → Reshaping Unit) (id : NodeId) : Reshaping NodeEntries := do
  if !((← get).get id).isMapping then throw .malformed
  resolve id
  return ((← get).get id).entries

/-- The entries that the value of a merge key brings in: those of a mapping, or those of a list of
mappings, the last one first. -/
def broughtIn (resolve : NodeId → Reshaping Unit) (value : NodeId) : Reshaping NodeEntries := do
  match (← get).get value with
  | .sequence _ items => return (← items.mapM (resolvedEntries resolve)).reverse.flatten
  | _ => resolvedEntries resolve value

/-- Resolves the merge keys of a mapping; `brought` holds what they have brought in so far, which comes
before the mapping's own entries. Every step takes one merge key away, so that `fuel` above the number of
merge keys suffices. -/
def resolveOnto : Nat → NodeEntries → NodeId → Reshaping Unit
  | 0, _, _ => throw .malformed
  | fuel + 1, brought, id => do
      let graph ← get
      let entries := (graph.get id).entries
      match entries.find? graph.merges with
      | none => set (graph.setEntries id (brought ++ entries))
      | some (_, value) =>
          set (graph.set id ((graph.get id).withEntries (entries.eraseP graph.merges)))
          let more ← broughtIn (resolveOnto fuel []) value
          resolveOnto fuel (brought ++ more) id

def resolve (fuel : Nat) (id : NodeId) : Reshaping Unit :=
  resolveOnto fuel [] id

end Reshaping

end ScriptDocs.Yaml
