import ScriptDocs.Log.Record

namespace ScriptDocs.Log

/-!
The journal: which records are written, by which handlers, and with which run and script. A handler
that was added by itself writes bare messages; configuring gives every handler the structured format
and one filter that supplies the fields of the run and the script. With no handler at all, messages
from `warning` up are still written bare.
-/

/-- A handler: whether it writes the structured format, and how many context filters it has. -/
structure Handler where
  formatted : Bool := false
  filters : Nat := 0
  deriving DecidableEq, Repr

/-- The level a configuration asks for. -/
inductive LevelChoice where
  | number (value : Int)
  | name (word : Text)
  deriving DecidableEq, Repr

def LevelChoice.level : LevelChoice → Int
  | .number value => value
  | .name word => levelOfName word

/-- The state of the journal: the least level that is written, the handlers, the run and the scripts
that are being processed, innermost first. -/
structure Journal where
  level : Int := warning
  handlers : List Handler := []
  runId : Text := ['-']
  scripts : List Text := []
  deriving DecidableEq, Repr

namespace Handler

/-- The handler with the structured format. -/
def format (handler : Handler) : Handler :=
  { handler with formatted := true }

/-- The handler with at least one context filter. -/
def ensureFilter (handler : Handler) : Handler :=
  if handler.filters == 0 then { handler with filters := 1 } else handler

/-- The line a handler writes for a record. In the structured format there is none unless a filter
supplies the run and the script. -/
def line? (handler : Handler) (clock runId : Text) (record : Record) : Option Text :=
  if !handler.formatted then some (record.message ++ ['\n'])
  else if handler.filters == 0 then none
  else
    some
      (Text.joinWith " | ".toList
        [clock, levelName record.level, "run_id=".toList ++ runId,
          "script=".toList ++ record.script, record.logger, record.message] ++ ['\n'])

end Handler

namespace Journal

/-- Sets the level and gives every handler the structured format and a filter; the first
configuration installs a handler of its own if there is none. -/
def configure (journal : Journal) (choice : LevelChoice) : Journal :=
  let handlers := if journal.handlers.isEmpty then [{}] else journal.handlers
  { journal with
    level := choice.level
    handlers := handlers.map (fun handler => handler.format.ensureFilter) }

/-- Adds a handler that writes bare messages. -/
def addHandler (journal : Journal) : Journal :=
  { journal with handlers := journal.handlers ++ [{}] }

/-- Sets the run to a given identifier, or to a fresh one if none is given. -/
def setRunId (journal : Journal) (fresh : Text) (given : Text) : Text × Journal :=
  let runId := if given.isEmpty then fresh else given
  (runId, { journal with runId })

/-- Starts processing a script. -/
def enter (journal : Journal) (script : Text) : Journal :=
  { journal with scripts := script :: journal.scripts }

/-- Ends processing the innermost script. -/
def leave (journal : Journal) : Journal :=
  { journal with scripts := journal.scripts.drop 1 }

/-- The script that is being processed. -/
def script (journal : Journal) : Text :=
  journal.scripts.head?.getD noScript

/-- Works while a script is being processed, and ends that whatever the work comes to. -/
def within {α : Type} (journal : Journal) (script : Text) (work : Journal → α × Journal) :
    α × Journal :=
  let (result, journal) := work (journal.enter script)
  (result, journal.leave)

/-- Whether a record of a level is written at all. -/
def admits (journal : Journal) (level : Int) : Bool :=
  0 < level && journal.level ≤ level

/-- What is written for a record. -/
def write (journal : Journal) (clock : Text) (record : Record) : Text :=
  if !journal.admits record.level then []
  else if journal.handlers.isEmpty then
    if warning ≤ record.level then record.message ++ ['\n'] else []
  else
    journal.handlers.flatMap (fun handler => (handler.line? clock journal.runId record).getD [])

/-- What is written for a message logged under a name; the empty name is the root's. -/
def log (journal : Journal) (clock name : Text) (level : Int) (message : Text) : Text :=
  let logger := if name.isEmpty then "root".toList else name
  journal.write clock { level, script := journal.script, logger, message }

end Journal

end ScriptDocs.Log
