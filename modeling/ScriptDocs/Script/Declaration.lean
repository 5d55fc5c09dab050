import ScriptDocs.Text.Numeral
import ScriptDocs.Text.Quoted

namespace ScriptDocs.Script

/-!
Declarations: what a code line declares. A function is a name directly followed by `()`; an assignment
is a name, an equals sign and a value that takes up the rest of the line. A name of capital letters,
digits and underscores alone is a constant's.
-/

inductive EntityKind where
  | unknown
  | method
  | variable
  | constant
  deriving DecidableEq, Repr

namespace EntityKind

def name : EntityKind → Text
  | .unknown => "unknown".toList
  | .method => "method".toList
  | .variable => "variable".toList
  | .constant => "constant".toList

def ofName? (text : Text) : Option EntityKind :=
  [EntityKind.unknown, .method, .variable, .constant].find? (fun kind => kind.name == text)

/-- What is said of a text that names no kind. -/
def noSuchKind (text : Text) : Text :=
  Text.quoted text ++ " is not a valid EntityKind".toList

end EntityKind

/-- What a code line declares. -/
inductive Declaration where
  | unrecognized
  | method (name : Text)
  | variable (name value : Text)
  | constant (name value : Text)
  deriving DecidableEq, Repr

namespace Declaration

def kind : Declaration → EntityKind
  | .unrecognized => .unknown
  | .method _ => .method
  | .variable _ _ => .variable
  | .constant _ _ => .constant

/-- The declared name, empty if nothing is declared. -/
def name : Declaration → Text
  | .unrecognized => []
  | .method name => name
  | .variable name _ => name
  | .constant name _ => name

/-- The assigned value, empty if nothing is assigned. -/
def value : Declaration → Text
  | .unrecognized => []
  | .method _ => []
  | .variable _ value => value
  | .constant _ value => value

/-- Whether a value is assigned. -/
def isAssignment : Declaration → Bool
  | .unrecognized => false
  | .method _ => false
  | .variable _ _ => true
  | .constant _ _ => true

end Declaration

def isLetter (c : Char) : Bool :=
  ('a' ≤ c && c ≤ 'z') || ('A' ≤ c && c ≤ 'Z')

def isMethodNameChar (c : Char) : Bool :=
  isLetter c || Text.isDigit c || c == '.' || c == '_'

/-- A character of an assigned name; brackets name elements of an array. -/
def isAssignedNameChar (c : Char) : Bool :=
  isLetter c || Text.isDigit c || c == '_' || c == '.' || c == '[' || c == ']'

def isConstantNameChar (c : Char) : Bool :=
  ('A' ≤ c && c ≤ 'Z') || Text.isDigit c || c == '_'

/-- The function a line defines. -/
def methodName? (line : Text) : Option Text :=
  let name := line.takeWhile isMethodNameChar
  match line.dropWhile isMethodNameChar with
  | '(' :: ')' :: _ => if name.isEmpty then none else some name
  | _ => none

/-- The name and the value of the assignment a line makes. The value stays within its line, so a line
feed can only be the last character, and is not part of the value. -/
def assignment? (line : Text) : Option (Text × Text) :=
  let name := line.takeWhile isAssignedNameChar
  match line.dropWhile isAssignedNameChar with
  | '=' :: rest =>
      let value := Text.dropFinalNewline rest
      if name.isEmpty || value.contains '\n' then none else some (name, value)
  | _ => none

/-- What a code line without leading spaces declares. -/
def classify (line : Text) : Declaration :=
  match methodName? line with
  | some name => .method name
  | none =>
      match assignment? line with
      | some (name, value) =>
          if name.all isConstantNameChar then .constant name value else .variable name value
      | none => .unrecognized

end ScriptDocs.Script
