import ScriptDocs.Extraction
import ScriptDocs.FileTree.Basic
import ScriptDocs.Log.Journal

namespace ScriptDocs.Loading

/-!
Loading one script from a volume. Either its document is read or exactly one error says why not, and
every record that is logged on the way names the script.
-/

/-- Why a script gives no document. -/
inductive LoadError where
  | missing (path : Text)
  | notRegular (path : Text)
  | notReadable (path : Text)
  | failed (failure : FileTree.Failure)
  | empty (path : Text)
  | notUtf8 (path : Text) (fault : Utf8.Fault)
  deriving DecidableEq, Repr

def LoadError.message : LoadError → Text
  | .missing path => "File ".toList ++ path ++ " doesn't exist or not accessible".toList
  | .notRegular path => "File ".toList ++ path ++ " is not a regular file".toList
  | .notReadable path => "File ".toList ++ path ++ " is not readable".toList
  | .failed failure => failure.message
  | .empty path => "File ".toList ++ path ++ " is empty".toList
  | .notUtf8 path fault =>
      "File ".toList ++ path ++ " is not valid UTF-8: ".toList ++ fault.message

def scriptText (volume : FileTree.Volume) (path : Text) : Except LoadError Text :=
  match volume.entry? path with
  | none => .error (.missing path)
  | some (.file _ .unreadable) => .error (.notReadable path)
  | some (.file _ .failing) => .error (.failed (.system .inputOutput path))
  | some (.file content .readable) =>
      if content.isEmpty then .error (.empty path)
      else (Utf8.decode content).mapError (LoadError.notUtf8 path)
  | some _ => .error (.notRegular path)

def record (path : Text) (level : Int) (message : Text) : Log.Record :=
  { level, script := path, logger := Log.extractor, message }

def parsedMessage (path : Text) (document : Document) : Text :=
  "Parsed ".toList ++ path ++ ": ".toList ++ Text.ofNat document.constants.length ++
    " constants, ".toList ++ Text.ofNat document.vars.length ++ " variables, ".toList ++
    Text.ofNat document.methods.length ++ " methods".toList

/-- The document of the script at a path, named after its file, or why there is none. -/
def parse (volume : FileTree.Volume) (path : Text) :
    Except LoadError Document × List Log.Record :=
  match scriptText volume path with
  | .error error =>
      (.error error,
        [record path Log.error
          ("Error reading ".toList ++ path ++ ": ".toList ++ error.message)])
  | .ok text =>
      let (document, notes) := Extraction.extract (Path.baseName path) text
      (.ok document,
        notes.map (fun note => record path Log.debug note.message) ++
          [record path Log.info (parsedMessage path document)])

/-- Loading with a journal in which the script is the one being processed until it is loaded. What is
logged on the way has its script from the journal. -/
def parseWithin (journal : Log.Journal) (volume : FileTree.Volume) (path : Text) :
    (Except LoadError Document × List Log.Record) × Log.Journal :=
  journal.within path (fun journal =>
    let (outcome, records) := parse volume path
    ((outcome, records.map (Log.Record.within journal.script)), journal))

/-- The document of the script at a path, under a title of its own if one is given. -/
def parseFile (volume : FileTree.Volume) (path : Text) (title : Text) :
    Except LoadError Document × List Log.Record :=
  let (outcome, records) := parse volume path
  (outcome.map (fun document => if title.isEmpty then document else document.withTitle title), records)

end ScriptDocs.Loading
