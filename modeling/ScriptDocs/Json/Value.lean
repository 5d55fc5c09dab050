import ScriptDocs.Decimal.Double
import ScriptDocs.Text.Numeral

namespace ScriptDocs.Json

/-!
JSON values. An object is a list of fields in the order of their first appearance, with distinct names.
Integers have a limit of digits and arrays and objects one of levels, beyond which they are neither
written nor read.
-/

/-- The most digits of an integer. -/
def digitLimit : Nat := 4300

/-- The wording of an integer that cannot be written. -/
def overlongMessage : Text :=
  "Exceeds the limit (".toList ++ Text.ofNat digitLimit ++
    " digits) for integer string conversion; ".toList ++
    "use sys.set_int_max_str_digits() to increase the limit".toList

/-- The levels of arrays and objects inside one another for which there is room, unless it is said how
much room there is. -/
def nestingLimit : Nat := 990

inductive Value where
  | null
  | bool (value : Bool)
  | int (value : Int)
  | real (value : Decimal.Double)
  | string (value : Text)
  | array (items : List Value)
  | object (fields : List (Text × Value))
  deriving Inhabited

/-- Sets a field: a new one comes last, an old one keeps its place. -/
def setField {α : Type} (name : Text) (value : α) : List (Text × α) → List (Text × α)
  | [] => [(name, value)]
  | (other, old) :: rest =>
      if other == name then (name, value) :: rest else (other, old) :: setField name value rest

/-- The object that a list of settings builds up, one after the other. -/
def ofFields {α : Type} (fields : List (Text × α)) : List (Text × α) :=
  fields.foldl (fun built field => setField field.1 field.2 built) []

def hasField {α : Type} (name : Text) (fields : List (Text × α)) : Bool :=
  fields.any (fun field => field.1 == name)

end ScriptDocs.Json
