import ScriptDocs.Decimal.Shortest
import ScriptDocs.Json.Value

namespace ScriptDocs.Json

/-!
Writing JSON values, on one line or indented. Only quotes, backslashes and control characters are
escaped in strings. A value is written piece by piece, so that a level for which there is no room, or an
integer with too many digits, leaves what stands before it.
-/

/-- A character inside a string. -/
def escape (c : Char) : Text :=
  match c with
  | '"' => ['\\', '"']
  | '\\' => ['\\', '\\']
  | '\n' => ['\\', 'n']
  | '\r' => ['\\', 'r']
  | '\t' => ['\\', 't']
  | '\x08' => ['\\', 'b']
  | '\x0c' => ['\\', 'f']
  | c => if c.toNat < 32 then '\\' :: 'u' :: Text.hexFixed 4 c.toNat else [c]

def writeString (text : Text) : Text :=
  '"' :: text.flatMap escape ++ ['"']

/-- What stands for numbers that JSON has no notation for, beside the standard layout. -/
def realLayout : Decimal.Layout :=
  { Decimal.Layout.standard with notANumber := "NaN".toList, infinity := "Infinity".toList }

/-- The start of a line at a depth; without an indent there are no lines. -/
def lineStart (indent : Option Int) (depth : Nat) : Text :=
  match indent with
  | none => []
  | some width => '\n' :: List.replicate (width.toNat * depth) ' '

def itemSeparator (indent : Option Int) (depth : Nat) : Text :=
  match indent with
  | none => [',', ' ']
  | some _ => ',' :: lineStart indent depth

mutual

/-- A value whose items, if it has any, stand one level below a depth. -/
def write (indent : Option Int) (depth : Nat) : Value → Text
  | .null => "null".toList
  | .bool true => "true".toList
  | .bool false => "false".toList
  | .int n => Text.ofInt n
  | .real x => realLayout.text x
  | .string text => writeString text
  | .array [] => ['[', ']']
  | .array (item :: items) =>
      '[' :: lineStart indent (depth + 1) ++ write indent (depth + 1) item ++
        writeItems indent (depth + 1) items ++ lineStart indent depth ++ [']']
  | .object [] => ['\x7b', '\x7d']
  | .object ((name, value) :: fields) =>
      '\x7b' :: lineStart indent (depth + 1) ++ writeString name ++ [':', ' '] ++
        write indent (depth + 1) value ++ writeFields indent (depth + 1) fields ++
        lineStart indent depth ++ ['\x7d']

/-- The items of an array after the first. -/
def writeItems (indent : Option Int) (depth : Nat) : List Value → Text
  | [] => []
  | item :: items =>
      itemSeparator indent depth ++ write indent depth item ++ writeItems indent depth items

/-- The fields of an object after the first. -/
def writeFields (indent : Option Int) (depth : Nat) : List (Text × Value) → Text
  | [] => []
  | (name, value) :: fields =>
      itemSeparator indent depth ++ writeString name ++ [':', ' '] ++ write indent depth value ++
        writeFields indent depth fields

end

def render (indent : Option Int) (value : Value) : Text :=
  write indent 0 value

inductive Interruption where
  | tooDeep
  | tooManyDigits
  deriving DecidableEq, Repr

def Interruption.message : Interruption → Text
  | .tooDeep => "maximum recursion depth exceeded while calling a Python object".toList
  | .tooManyDigits => overlongMessage

/-- What was written, and what interrupted the writing if it is not all. -/
abbrev Written := Text × Option Interruption

/-- Goes on writing unless there was an interruption. -/
def Written.andThen (first next : Written) : Written :=
  match first with
  | (text, some interruption) => (text, some interruption)
  | (text, none) => (text ++ next.1, next.2)

def isOverlong : Value → Bool
  | .int n => Nat.pow 10 digitLimit ≤ n.natAbs
  | _ => false

mutual

/-- Writes a value with room for so many levels. Only what has items takes up a level. -/
def put (room : Nat) (indent : Option Int) (depth : Nat) : Value → Written
  | .array items =>
      if items.isEmpty then (['[', ']'], none)
      else
        match room with
        | 0 => ([], some .tooDeep)
        | room + 1 =>
            (putItems room indent (depth + 1) ('[' :: lineStart indent (depth + 1)) items).andThen
              (lineStart indent depth ++ [']'], none)
  | .object fields =>
      if fields.isEmpty then (['\x7b', '\x7d'], none)
      else
        match room with
        | 0 => ([], some .tooDeep)
        | room + 1 =>
            (putFields room indent (depth + 1) ('\x7b' :: lineStart indent (depth + 1)) fields).andThen
              (lineStart indent depth ++ ['\x7d'], none)
  | atom => if isOverlong atom then ([], some .tooManyDigits) else (write indent depth atom, none)

/-- Writes the items of an array, the first of them behind `lead`. An integer is written together with
what stands before it, or neither is. -/
def putItems (room : Nat) (indent : Option Int) (depth : Nat) (lead : Text) : List Value → Written
  | [] => ([], none)
  | item :: items =>
      Written.andThen (if isOverlong item then [] else lead, none)
        ((put room indent depth item).andThen
          (putItems room indent depth (itemSeparator indent depth) items))

/-- Writes the fields of an object, the first of them behind `lead`. -/
def putFields (room : Nat) (indent : Option Int) (depth : Nat) (lead : Text) :
    List (Text × Value) → Written
  | [] => ([], none)
  | (name, value) :: fields =>
      Written.andThen (lead ++ writeString name ++ [':', ' '], none)
        ((put room indent depth value).andThen
          (putFields room indent depth (itemSeparator indent depth) fields))

end

/-- Writes a value, as far as there is room for its levels. -/
def dump (indent : Option Int) (value : Value) (room : Nat := nestingLimit) : Written :=
  put room indent 0 value

end ScriptDocs.Json
