import ScriptDocs.Text.Basic

namespace ScriptDocs.Json

/-!
How deep the arrays and objects of a text are inside one another, by its brackets alone. Brackets inside
strings do not count, and nothing else of a text is looked at.
-/

/-- What a bracket opens. -/
inductive Enclosure where
  | array
  | object
  deriving DecidableEq, Repr

def Enclosure.name : Enclosure → Text
  | .array => "array".toList
  | .object => "object".toList

/-- The place right after the first bracket that opens one level more than `room` allows, and what that
bracket opens. `position` counts the characters before the text, and `quoted` tells whether it starts
inside a string. -/
def overflow? (room : Nat) (quoted : Bool) (position : Nat) : Text → Option (Enclosure × Nat)
  | [] => none
  | '\\' :: c :: rest =>
      if quoted then overflow? room true (position + 2) rest
      else overflow? room false (position + 1) (c :: rest)
  | '"' :: rest => overflow? room (!quoted) (position + 1) rest
  | c :: rest =>
      if quoted then overflow? room true (position + 1) rest
      else
        match c, room with
        | '[', 0 => some (.array, position + 1)
        | '[', room + 1 => overflow? room false (position + 1) rest
        | '\x7b', 0 => some (.object, position + 1)
        | '\x7b', room + 1 => overflow? room false (position + 1) rest
        | ']', room => overflow? (room + 1) false (position + 1) rest
        | '\x7d', room => overflow? (room + 1) false (position + 1) rest
        | _, room => overflow? room false (position + 1) rest

end ScriptDocs.Json
