import ScriptDocs.Text.Numeral

namespace ScriptDocs

/-!
The types a documented value can have, their codes in written documents and their display names.
-/

inductive ValueType where
  | unknown
  | string
  | number
  | boolean
  deriving DecidableEq, Repr, Inhabited

namespace ValueType

/-- The code that stands for a type in a written document. -/
def code : ValueType → Nat
  | .unknown => 0
  | .string => 1
  | .number => 2
  | .boolean => 3

def ofCode? (code : Int) : Option ValueType :=
  [ValueType.unknown, .string, .number, .boolean].find? (fun type => (type.code : Int) == code)

/-- What is said of a number that is no type's code. -/
def noSuchCode (code : Int) : Text :=
  Text.ofInt code ++ " is not a valid VariableType".toList

/-- The display names of a type, one for each style. -/
def names : ValueType → List Text
  | .unknown => []
  | .string => ["String".toList, "string".toList, "STRING".toList, "S".toList, "s".toList]
  | .number => ["Number".toList, "number".toList, "NUMBER".toList, "N".toList, "n".toList]
  | .boolean => ["Boolean".toList, "boolean".toList, "BOOLEAN".toList, "B".toList, "b".toList]

/-- The nearest of the five styles, numbered from zero. -/
def clampStyle (style : Int) : Nat :=
  (min style 4).toNat

/-- The name of a type in a style; an unknown type has none. -/
def styledName (type : ValueType) (style : Int) : Text :=
  (type.names[clampStyle style]?).getD []

end ValueType

end ScriptDocs
