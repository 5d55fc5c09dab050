import ScriptDocs.Yaml.Fault
import ScriptDocs.Yaml.Token

namespace ScriptDocs.Yaml

/-!
Places in a YAML text. A cursor holds what is left to read and counts the characters, lines and columns
before it; a scan reads from a cursor and may find the text faulty.
-/

structure Cursor where
  rest : Text
  index : Nat
  line : Nat
  column : Nat
  deriving DecidableEq, Repr

namespace Cursor

def start (text : Text) : Cursor :=
  ⟨text, 0, 0, 0⟩

/-- The character some places further on. -/
def charAt (cursor : Cursor) (offset : Nat) : Char :=
  cursor.rest.getD offset endMark

/-- The next character. -/
def char (cursor : Cursor) : Char :=
  cursor.rest.headD endMark

/-- The place after the next character. A byte order mark takes no column. -/
def advance (cursor : Cursor) : Cursor :=
  match cursor.rest with
  | [] => cursor
  | c :: rest =>
      if isBreak c then ⟨rest, cursor.index + 1, cursor.line + 1, 0⟩
      else
        let column := if c == '\ufeff' then cursor.column else cursor.column + 1
        ⟨rest, cursor.index + 1, cursor.line, column⟩

def skip (cursor : Cursor) : Nat → Cursor
  | 0 => cursor
  | count + 1 => cursor.advance.skip count

/-- Whether a line that separates documents starts here. -/
def atSeparator (cursor : Cursor) : Bool :=
  (cursor.rest.take 3 == "---".toList || cursor.rest.take 3 == "...".toList) &&
    isGap (cursor.charAt 3)

end Cursor

abbrev Scan (α : Type) := StateT Cursor (Except Fault) α

namespace Scan

def refuse {α : Type} : Scan α :=
  throw .malformed

/-- The next character, which stays. -/
def char : Scan Char := do
  return (← get).char

/-- A later character, which stays. -/
def charAt (offset : Nat) : Scan Char := do
  return (← get).charAt offset

def skip (count : Nat) : Scan Unit :=
  modify (·.skip count)

/-- Reads the longest run of characters of one kind. -/
def takeWhile (accepts : Char → Bool) : Scan Text := do
  let run := (← get).rest.takeWhile accepts
  skip run.length
  return run

/-- Reads some characters, which must be hexadecimal digits, as a number. -/
def hexNumber (count : Nat) : Scan Nat := do
  let digits := (← get).rest.take count
  match digits.length == count, Text.toNat? 16 digits with
  | true, some code => skip count; return code
  | _, _ => refuse

/-- Passes over a line break and gives it as text; there may be none. -/
def lineBreak : Scan Text := do
  let c ← char
  if c == '\u2028' || c == '\u2029' then skip 1; return [c]
  else if isBreak c then skip 1; return ['\n']
  else return []

/-- Passes over the rest of a line that holds nothing but a comment. -/
def endOfLine : Scan Unit := do
  let _ ← takeWhile (· == ' ')
  if (← char) == '#' then
    let _ ← takeWhile (!isBreakOrEnd ·)
  if !isBreakOrEnd (← char) then refuse
  let _ ← lineBreak

end Scan

end ScriptDocs.Yaml
