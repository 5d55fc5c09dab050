import ScriptDocs.Json.Reader
import ScriptDocs.Text.Quoted
import ScriptDocs.Value.Calendar

namespace ScriptDocs.Yaml

/-!
Why a text is no YAML document that can be read. Most faults are told only as malformed; a scalar that
looks like a value of some type and is none has a fault of its own, and so has nesting that is too deep.
-/

/-- Why a text cannot be read. -/
inductive Fault where
  | malformed
  | noSuchCharacter
  | codeTooLarge
  | integer (base : Nat) (text : Text)
  | real (text : Text)
  | emptyNumber
  | realTooLarge
  | tooManyDigits (count : Nat)
  | truth (text : Text)
  | timestamp
  | timestampOfMapping
  | calendar (fault : CalendarFault)
  | tooDeep
  deriving DecidableEq, Repr

/-- The most characters of a literal that the wording of an integer shows. -/
def shownLength : Nat := 200

def Fault.message : Fault → Text
  | .malformed => "YAML".toList
  | .noSuchCharacter => "chr() arg not in range(0x110000)".toList
  | .codeTooLarge => "Python int too large to convert to C int".toList
  | .integer base text =>
      "invalid literal for int() with base ".toList ++ Text.ofNat base ++ ": ".toList ++
        (Text.quoted text).take shownLength
  | .real text => "could not convert string to float: ".toList ++ Text.quoted text
  | .emptyNumber => "string index out of range".toList
  | .realTooLarge => "int too large to convert to float".toList
  | .tooManyDigits count => Json.tooManyDigitsMessage count
  | .truth text => Text.quoted text
  | .timestamp => "'NoneType' object has no attribute 'groupdict'".toList
  | .timestampOfMapping => "expected string or bytes-like object, got 'list'".toList
  | .calendar fault => fault.message
  | .tooDeep => "maximum recursion depth exceeded".toList

end ScriptDocs.Yaml
