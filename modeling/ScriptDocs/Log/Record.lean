import ScriptDocs.Text.Case
import ScriptDocs.Text.Numeral

namespace ScriptDocs.Log

/-!
Log records and their levels. A level is a number; some numbers have names, two of them more than one.
-/

/-- The levels the library itself logs at. -/
def debug : Int := 10
def info : Int := 20
def warning : Int := 30
def error : Int := 40
def critical : Int := 50

/-- The names of levels; the first name of a number is the one that is shown. -/
def levelNames : List (Text × Int) :=
  [("CRITICAL".toList, critical), ("FATAL".toList, critical), ("ERROR".toList, error),
   ("WARNING".toList, warning), ("WARN".toList, warning), ("INFO".toList, info),
   ("DEBUG".toList, debug), ("NOTSET".toList, 0)]

def levelName (level : Int) : Text :=
  match levelNames.find? (fun named => named.2 == level) with
  | some (name, _) => name
  | none => "Level ".toList ++ Text.ofInt level

/-- The level that a name in any case stands for; what is no name stands for `info`. -/
def levelOfName (name : Text) : Int :=
  ((levelNames.find? (fun named => named.1 == Text.capitals name)).map Prod.snd).getD info

/-- The script that a record outside every script is shown with. -/
def noScript : Text := ['-']

/-- One record: how important it is, which script it is about, who logs it, and what it says. -/
structure Record where
  level : Int
  script : Text := noScript
  logger : Text
  message : Text
  deriving DecidableEq, Repr

namespace Record

/-- A record as one line of fields. -/
def line (record : Record) : Text :=
  Text.joinWith " | ".toList [levelName record.level, record.script, record.logger, record.message]

/-- The record as logged while a script is processed. -/
def within (script : Text) (record : Record) : Record :=
  { record with script }

end Record

/-- The logger of the extraction. -/
def extractor : Text := "shdoc.extractor".toList

/-- The logger of the settings. -/
def settings : Text := "core.settings".toList

/-- The logger of the command line. -/
def runner : Text := "run_shdoc".toList

end ScriptDocs.Log
