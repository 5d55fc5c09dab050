import ScriptDocs.Json.Value
import ScriptDocs.Value.Placement

namespace ScriptDocs

/-!
What a settings file holds, with its sharing. Containers are numbered and kept in a pool, and what stands
in a container is an atom or the number of a container; so one container can stand in several places, and
inside itself. A change to a container shows wherever it stands. `Pool.tree?` unfolds an item into the
tree that messages show.
-/

/-- What stands in a container. `unlike` is not a number, and as a key it is the same only as itself:
`mark` tells one from another. -/
inductive Item where
  | atom (content : Atom)
  | unlike (mark : Nat)
  | container (number : Nat)
  deriving DecidableEq, Repr, Inhabited

namespace Item

/-- Whether an item can be a key: containers cannot. -/
def isKey : Item → Bool
  | .container _ => false
  | _ => true

def sameKey : Item → Item → Bool
  | .atom left, .atom right => left.sameKey right
  | .unlike left, .unlike right => left == right
  | _, _ => false

def text (characters : Text) : Item :=
  .atom (.text characters)

end Item

abbrev Entries := List (Item × Item)

namespace Entries

/-- Sets an entry: a new one comes last, an old one keeps its key and its place. -/
def set (key value : Item) : Entries → Entries
  | [] => [(key, value)]
  | (other, old) :: rest =>
      if other.sameKey key then (other, value) :: rest else (other, old) :: set key value rest

/-- The entries that a list of settings builds up, one after the other. -/
def build (settings : List (Item × Item)) : Entries :=
  settings.foldl (fun built setting => set setting.1 setting.2 built) []

end Entries

inductive Container where
  | list (items : List Item)
  | pairs (items : List (Item × Item))
  | mapping (entries : Entries)
  | set (members : List Item)
  deriving DecidableEq, Repr, Inhabited

namespace Container

def kindName : Container → Text
  | .list _ => "list".toList
  | .pairs _ => "list".toList
  | .mapping _ => "dict".toList
  | .set _ => "set".toList

def isMapping : Container → Bool
  | .mapping _ => true
  | _ => false

end Container

/-- Containers by their numbers. -/
structure Pool where
  containers : Array Container := #[]
  deriving DecidableEq, Repr, Inhabited

namespace Pool

def get (pool : Pool) (number : Nat) : Container :=
  pool.containers.getD number (.list [])

/-- Puts a container in the place of another one. -/
def set (pool : Pool) (number : Nat) (container : Container) : Pool :=
  { containers := pool.containers.setIfInBounds number container }

/-- Adds a container and gives its number. -/
def add (pool : Pool) (container : Container) : Pool × Nat :=
  ({ containers := pool.containers.push container }, pool.containers.size)

def entries (pool : Pool) (number : Nat) : Entries :=
  match pool.get number with
  | .mapping entries => entries
  | _ => []

def setEntry (pool : Pool) (number : Nat) (key value : Item) : Pool :=
  pool.set number (.mapping (Entries.set key value (pool.entries number)))

/-- The texts of a list of texts. -/
def texts? (pool : Pool) : Item → Option (List Text)
  | .container number =>
      match pool.get number with
      | .list items =>
          items.mapM (fun item =>
            match item with
            | .atom (.text characters) => some characters
            | _ => none)
      | .pairs [] => some []
      | _ => none
  | _ => none

/-- The tree of an item that stands inside the containers of `path`; a container among those ends the
tree. There is no tree if containers are inside one another more than `levels` deep. -/
def treeIn? (pool : Pool) : Nat → List Nat → Item → Option Value
  | _, _, .atom content => some (.atom content)
  | _, _, .unlike _ => some (.atom (.real .notANumber))
  | 0, _, .container _ => none
  | levels + 1, path, .container number =>
      let container := pool.get number
      let inner := treeIn? pool levels (number :: path)
      let pair (entry : Item × Item) : Option (Value × Value) := do
        let left ← inner entry.1
        let right ← inner entry.2
        return (left, right)
      if path.contains number then some (.enclosing container.isMapping)
      else
        match container with
        | .list items => (items.mapM inner).map .list
        | .pairs items =>
            (items.mapM pair).map (fun pairs => .list (pairs.map (fun (left, right) => .pair left right)))
        | .mapping entries => (entries.mapM pair).map .mapping
        | .set members => (members.mapM inner).map (fun members => .set (Value.arranged members))

/-- How many containers a tree can have inside one another. -/
def levelLimit : Nat := 990

/-- The tree of an item, unless it is too deep. -/
def tree? (pool : Pool) (item : Item) : Option Value :=
  pool.treeIn? levelLimit [] item

mutual

/-- Adds a JSON value to a pool and gives its item. -/
def addJson (pool : Pool) : Json.Value → Pool × Item
  | .null => (pool, .atom .null)
  | .bool b => (pool, .atom (.bool b))
  | .int n => (pool, .atom (.int n))
  | .real x => (pool, .atom (.real x))
  | .string characters => (pool, .text characters)
  | .array items =>
      let (pool, items) := addJsonItems pool items
      let (pool, number) := pool.add (.list items)
      (pool, .container number)
  | .object fields =>
      let (pool, entries) := addJsonFields pool fields
      let (pool, number) := pool.add (.mapping entries)
      (pool, .container number)

def addJsonItems (pool : Pool) : List Json.Value → Pool × List Item
  | [] => (pool, [])
  | item :: rest =>
      let (pool, item) := addJson pool item
      let (pool, rest) := addJsonItems pool rest
      (pool, item :: rest)

def addJsonFields (pool : Pool) : List (Text × Json.Value) → Pool × Entries
  | [] => (pool, [])
  | (name, value) :: rest =>
      let (pool, value) := addJson pool value
      let (pool, rest) := addJsonFields pool rest
      (pool, (.text name, value) :: rest)

end

end Pool

/-- What a settings file holds: an item, and the containers that are in it. -/
structure Content where
  pool : Pool
  item : Item
  deriving Repr, Inhabited

namespace Content

def kindName (content : Content) : Text :=
  match content.item with
  | .atom value => value.kindName
  | .unlike _ => (Atom.real .notANumber).kindName
  | .container number => (content.pool.get number).kindName

def ofJson (value : Json.Value) : Content :=
  let (pool, item) := Pool.addJson {} value
  { pool, item }

end Content

end ScriptDocs
