import ScriptDocs.Text.Basic

namespace ScriptDocs.Script

/-!
The lines of a script and a cursor that hands them out. Lines are the segments between line feeds,
less an empty last one, each without one trailing carriage return. A cursor moves forward only: it
hands out either one line with its number or, joined together, the lines up to one that ends in a
given terminator.
-/

/-- The segments without an empty last one, which only says that the text ended in a line feed. -/
def dropFinalEmpty : List Text → List Text
  | [] => []
  | [segment] => if segment.isEmpty then [] else [segment]
  | segment :: rest => segment :: dropFinalEmpty rest

/-- A line without one trailing carriage return. -/
def dropReturn (line : Text) : Text :=
  match line.reverse with
  | '\r' :: before => before.reverse
  | _ => line

def linesOf (text : Text) : List Text :=
  (dropFinalEmpty (Text.segments '\n' text)).map dropReturn

/-- The lines up to and including the first that ends in `terminator`, and the lines after it. -/
def splitAfter (terminator : Text) : List Text → List Text × List Text
  | [] => ([], [])
  | line :: rest =>
      if terminator.isSuffixOf line then ([line], rest)
      else
        let (taken, left) := splitAfter terminator rest
        (line :: taken, left)

/-- A place among the lines of a script: how many were handed out, and those still to come. -/
structure Cursor where
  lineNumber : Nat
  remaining : List Text
  deriving DecidableEq, Repr

namespace Cursor

def ofText (text : Text) : Cursor :=
  ⟨0, linesOf text⟩

/-- The next line with its number, counted from one. -/
def next (cursor : Cursor) : Option (Nat × Text) × Cursor :=
  match cursor.remaining with
  | [] => (none, cursor)
  | line :: rest => (some (cursor.lineNumber + 1, line), ⟨cursor.lineNumber + 1, rest⟩)

/-- The lines up to and including the first that ends in `terminator`, or all that are left, joined. -/
def continuation (cursor : Cursor) (terminator : Text) : Text × Cursor :=
  let (taken, left) := splitAfter terminator cursor.remaining
  (taken.flatten, ⟨cursor.lineNumber + taken.length, left⟩)

/-- All lines that are left, with their numbers. -/
def rest (cursor : Cursor) : List (Nat × Text) × Cursor :=
  ((cursor.remaining.zipIdx (cursor.lineNumber + 1)).map (fun numbered => (numbered.2, numbered.1)),
    ⟨cursor.lineNumber + cursor.remaining.length, []⟩)

end Cursor

end ScriptDocs.Script
