import ScriptDocs.Decimal.Shortest
import ScriptDocs.Text.Quoted
import ScriptDocs.Value.Basic

namespace ScriptDocs

/-!
Values as messages show them: the literal of a value, and its plain text, which differs from the
literal only for texts, dates and moments. An integer beyond the digit limit has no text.
-/

namespace Atom

/-- A byte inside a literal of bytes that is surrounded by `quote`. -/
def escapeByte (quote : Char) (byte : UInt8) : Text :=
  let c := Char.ofNat byte.toNat
  if byte < 127 then Text.escapeIn quote c else '\\' :: 'x' :: Text.hexFixed 2 byte.toNat

def bytesLiteral (bytes : List UInt8) : Text :=
  let quote := Text.quoteFor (bytes.map (fun byte => Char.ofNat byte.toNat))
  'b' :: quote :: bytes.flatMap (escapeByte quote) ++ [quote]

/-- The literal of numbers as the parts of a constructor. -/
def partsLiteral (parts : List Nat) : Text :=
  Text.joinWith ", ".toList (parts.map Text.ofNat)

def offsetLiteral (seconds : Int) : Text :=
  if seconds == 0 then ", tzinfo=datetime.timezone.utc".toList
  else ", tzinfo=datetime.timezone(".toList ++ durationText seconds ++ [')']

/-- The literal of a moment; zero seconds and microseconds at its end are left out. -/
def momentLiteral (moment : Moment) : Text :=
  let time :=
    if moment.microsecond != 0 then [moment.second, moment.microsecond]
    else if moment.second != 0 then [moment.second]
    else []
  "datetime.datetime(".toList ++
    partsLiteral
      ([moment.date.year, moment.date.month, moment.date.day, moment.hour, moment.minute] ++ time) ++
    (moment.offset.map offsetLiteral).getD [] ++ [')']

def literal : Atom → Text
  | .null => "None".toList
  | .bool true => "True".toList
  | .bool false => "False".toList
  | .int n => Text.ofInt n
  | .real x => Decimal.Layout.standard.text x
  | .text characters => Text.quoted characters
  | .bytes content => bytesLiteral content
  | .date day => "datetime.date(".toList ++ partsLiteral [day.year, day.month, day.day] ++ [')']
  | .moment instant => momentLiteral instant

def plainText : Atom → Text
  | .text characters => characters
  | .date day => day.text
  | .moment instant => instant.text
  | atom => atom.literal

/-- Whether an atom is an integer with more digits than text may have. -/
def isOverlong : Atom → Bool
  | .int n => Nat.pow 10 4300 ≤ n.natAbs
  | _ => false

end Atom

namespace Value

mutual

def literal : Value → Text
  | .atom content => content.literal
  | .list items => '[' :: itemsLiteral items ++ [']']
  | .pair left right => '(' :: literal left ++ ", ".toList ++ literal right ++ [')']
  | .mapping entries => '\x7b' :: entriesLiteral entries ++ ['\x7d']
  | .set [] => "set()".toList
  | .set (member :: members) => '\x7b' :: itemsLiteral (member :: members) ++ ['\x7d']
  | .enclosing isMapping => if isMapping then "\x7b...\x7d".toList else "[...]".toList

/-- The literals of items, with commas between them. -/
def itemsLiteral : List Value → Text
  | [] => []
  | [item] => literal item
  | item :: rest => literal item ++ ", ".toList ++ itemsLiteral rest

/-- The literals of entries, with commas between them. -/
def entriesLiteral : List (Value × Value) → Text
  | [] => []
  | [(key, value)] => literal key ++ ": ".toList ++ literal value
  | (key, value) :: rest =>
      literal key ++ ": ".toList ++ literal value ++ ", ".toList ++ entriesLiteral rest

end

def plainText : Value → Text
  | .atom content => content.plainText
  | value => literal value

mutual

/-- Whether a value holds an integer with more digits than text may have. -/
def isOverlong : Value → Bool
  | .atom content => content.isOverlong
  | .list items => anyOverlong items
  | .set members => anyOverlong members
  | .pair left right => isOverlong left || isOverlong right
  | .mapping entries => anyEntryOverlong entries
  | .enclosing _ => false

def anyOverlong : List Value → Bool
  | [] => false
  | item :: rest => isOverlong item || anyOverlong rest

/-- Whether a key or a value of the entries is overlong. -/
def anyEntryOverlong : List (Value × Value) → Bool
  | [] => false
  | (key, value) :: rest => isOverlong key || isOverlong value || anyEntryOverlong rest

end

end Value

end ScriptDocs
