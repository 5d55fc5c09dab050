import ScriptDocs.Decimal.Double
import ScriptDocs.Value.Calendar

namespace ScriptDocs

/-!
Values of settings files, of either format. Atoms hold nothing else and can be keys; as keys they are
compared as numbers across numeric kinds. A value is a finite tree of atoms: where a container stands
inside itself, the tree ends.
-/

/-- A value that holds no other value. -/
inductive Atom where
  | null
  | bool (value : Bool)
  | int (value : Int)
  | real (value : Decimal.Double)
  | text (value : Text)
  | bytes (value : List UInt8)
  | date (value : Date)
  | moment (value : Moment)
  deriving DecidableEq, Repr, Inhabited

namespace Atom

def kindName : Atom → Text
  | .null => "NoneType".toList
  | .bool _ => "bool".toList
  | .int _ => "int".toList
  | .real _ => "float".toList
  | .text _ => "str".toList
  | .bytes _ => "bytes".toList
  | .date _ => "date".toList
  | .moment _ => "datetime".toList

/-- A number as an integer or a double; truth values count as one and zero. -/
def number? : Atom → Option (Int ⊕ Decimal.Double)
  | .bool true => some (.inl 1)
  | .bool false => some (.inl 0)
  | .int n => some (.inl n)
  | .real x => some (.inr x)
  | _ => none

/-- Whether two keys are the same. What is not a number is the same key as itself. -/
def sameKey (left right : Atom) : Bool :=
  match left.number?, right.number? with
  | some (.inl a), some (.inl b) => a == b
  | some (.inl a), some (.inr x) => x.isInt a
  | some (.inr x), some (.inl b) => x.isInt b
  | some (.inr x), some (.inr y) => x == y || x.sameNumber y
  | some _, none => false
  | none, some _ => false
  | none, none =>
      match left, right with
      | .null, .null => true
      | .text a, .text b => a == b
      | .bytes a, .bytes b => a == b
      | .date a, .date b => a == b
      | .moment a, .moment b => a.same b
      | _, _ => false

end Atom

/-- A tree of atoms. `enclosing` stands for a container inside itself. -/
inductive Value where
  | atom (content : Atom)
  | list (items : List Value)
  | pair (left right : Value)
  | mapping (entries : List (Value × Value))
  | set (members : List Value)
  | enclosing (isMapping : Bool)
  deriving Inhabited

end ScriptDocs
