import ScriptDocs.Text.Basic

namespace ScriptDocs.Comment

/-!
The comment block that is being collected. A block opens with its first comment and closes when it is
taken; paragraph breaks count only inside an open block. Beside it stands what the script has shown so
far: whether a function was documented, and whether any block was closed.
-/

/-- The block being collected, and what was seen before it. -/
structure Pending where
  buffer : Option (List Text) := none
  methodsSeen : Bool := false
  aboutClaimed : Bool := false
  deriving DecidableEq, Repr

namespace Pending

/-- Adds a comment line and opens a block if none is open. -/
def append (pending : Pending) (text : Text) : Pending :=
  { pending with buffer := some (pending.buffer.getD [] ++ [text]) }

/-- Adds an empty line to an open block. -/
def appendBreak (pending : Pending) : Pending :=
  { pending with buffer := pending.buffer.map (· ++ [[]]) }

/-- The collected block, empty if none is open, and the state without it. -/
def take (pending : Pending) : List Text × Pending :=
  (pending.buffer.getD [],
    { pending with
      buffer := none
      aboutClaimed := pending.aboutClaimed || pending.buffer.isSome })

end Pending

end ScriptDocs.Comment
