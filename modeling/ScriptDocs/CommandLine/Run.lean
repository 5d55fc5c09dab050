import ScriptDocs.Artifact
import ScriptDocs.Batch
import ScriptDocs.CommandLine.Options
import ScriptDocs.CommandLine.Usage
import ScriptDocs.Log.Journal
import ScriptDocs.Settings.Loading

namespace ScriptDocs.CommandLine

/-!
A run of the program: what a command line does to a volume, what it shows and how it ends. Everything
outside the volume that a run depends on is in its surroundings.
-/

/-- What a run depends on: the environment, the time at which documents are written, the time of its
records, and an identifier that no other run has. -/
structure Surroundings where
  environment : Environment
  writeTime : Text
  recordTime : Text
  freshRunId : Text
  deriving DecidableEq, Repr

inductive Exit where
  | success
  | failure
  | noDocuments
  deriving DecidableEq, Repr

def Exit.number : Exit → Nat
  | .success => 0
  | .failure => 1
  | .noDocuments => 2

/-- Why a run breaks off, or never ends. -/
inductive Breakdown where
  | settings (error : Settings.LoadError)
  | write (error : Artifact.WriteError)
  deriving DecidableEq, Repr

def Breakdown.message : Breakdown → Text
  | .settings error => error.message
  | .write error => error.message

/-- What came of a part of a run: the volume after it, the records, and a result or a breakdown. -/
structure Work (α : Type) where
  volume : FileTree.Volume
  records : List Log.Record
  outcome : Except Breakdown α

/-- A record of the program itself. -/
def record (level : Int) (message : Text) : Log.Record :=
  { level, logger := Log.runner, message }

def wroteRecord (path : Text) : Log.Record :=
  record Log.info ("Wrote ".toList ++ path)

def fileErrorRecord (message : Text) : Log.Record :=
  record Log.error ("File error: ".toList ++ message)

/-- What a write that failed means for a run: a failure of the system is recorded and ends the run,
anything else breaks it off. -/
def afterFailedWrite : Artifact.WriteError → List Log.Record × Except Breakdown Exit
  | .failed (.system errno path) =>
      ([fileErrorRecord (FileTree.Failure.system errno path).message], .ok .failure)
  | error => ([], .error (.write error))

/-- Where documents go and how they are laid out. -/
structure Destination where
  directory : Text
  indent : Nat
  deriving DecidableEq, Repr

def writeDocument (volume : FileTree.Volume) (writeTime : Text) (destination : Destination)
    (document : Document) : FileTree.Volume × Except Artifact.WriteError Text :=
  Artifact.write volume writeTime document.toFields document.title destination.directory
    (some destination.indent)

/-- A document under the title and with the entities that were asked for. -/
def select (name find : Option Text) (document : Document) : Document :=
  let titled :=
    match name with
    | none => document
    | some [] => document
    | some title => document.withTitle title
  match find with
  | none => titled
  | some [] => titled
  | some pattern => titled.find pattern

def runScript (volume : FileTree.Volume) (writeTime : Text) (destination : Destination)
    (options : Options) : Work Exit :=
  let (parsed, records) := Loading.parse volume options.source
  match parsed with
  | .error error =>
      let notes :=
        [record Log.error "Shell script docs parsing errors:".toList,
          record Log.error ("  ".toList ++ error.message)]
      ⟨volume, records ++ notes, .ok .failure⟩
  | .ok document =>
      if document.isValid then
        match writeDocument volume writeTime destination (select options.name options.find document) with
        | (volume, .ok path) => ⟨volume, records ++ [wroteRecord path], .ok .success⟩
        | (volume, .error error) =>
            let (notes, outcome) := afterFailedWrite error
            ⟨volume, records ++ notes, outcome⟩
      else
        ⟨volume, records ++ [record Log.warning (Batch.undocumentedMessage options.source)],
          .ok .noDocuments⟩

/-- Writes documents one after the other, up to the first that fails. -/
def writeAll (volume : FileTree.Volume) (writeTime : Text) (destination : Destination) :
    List Document → FileTree.Volume × List Log.Record × Except Artifact.WriteError Unit
  | [] => (volume, [], .ok ())
  | document :: rest =>
      match writeDocument volume writeTime destination document with
      | (volume, .error error) => (volume, [], .error error)
      | (volume, .ok path) =>
          let (volume, records, outcome) := writeAll volume writeTime destination rest
          (volume, wroteRecord path :: records, outcome)

def directoryExit (documents : List Document) (stats : Batch.Stats) : Exit :=
  if 0 < stats.filesFailed then .failure
  else if documents.isEmpty then .noDocuments
  else .success

def runDirectory (volume : FileTree.Volume) (writeTime : Text) (destination : Destination)
    (directory : Text) (extensions : List Text) : Work Exit :=
  let (parsed, records) := Batch.parseDirectory volume directory true extensions
  match parsed with
  | .error error => ⟨volume, records ++ [fileErrorRecord error.message], .ok .failure⟩
  | .ok (documents, stats) =>
      let (volume, written, outcome) := writeAll volume writeTime destination documents
      match outcome with
      | .error error =>
          let (notes, outcome) := afterFailedWrite error
          ⟨volume, records ++ written ++ notes, outcome⟩
      | .ok () =>
          let final := record Log.info ("Final stats: ".toList ++ stats.text)
          ⟨volume, records ++ written ++ [final], .ok (directoryExit documents stats)⟩

/-- An option that was given and is not empty, or else something else. -/
def given (option : Option Text) (otherwise : Text) : Text :=
  match option with
  | none => otherwise
  | some [] => otherwise
  | some text => text

/-- Writes the documentation of a script or of a directory. -/
def runSource (volume : FileTree.Volume) (writeTime : Text) (settings : Settings)
    (options : Options) : Work Exit :=
  let destination : Destination :=
    { directory := given options.outputDirectory settings.outputDirectory
      indent := settings.jsonIndent }
  if volume.isDirectory options.source then
    runDirectory volume writeTime destination options.source settings.scriptExtensions
  else runScript volume writeTime destination options

/-- What is left of a run: the volume, what was shown, and the number it ended with or why it broke
off. -/
structure Result where
  volume : FileTree.Volume
  output : Text
  errors : Text
  exit : Except Breakdown Nat

/-- What a journal writes for records. -/
def shown (journal : Log.Journal) (surroundings : Surroundings) (records : List Log.Record) : Text :=
  records.flatMap (journal.write surroundings.recordTime)

/-- Runs with options. Records of loading the settings come before the journal is configured, which then
shows nothing below warnings. -/
def runOptions (volume : FileTree.Volume) (surroundings : Surroundings) (options : Options)
    (decoders : Settings.Decoders := {}) : Result :=
  let (loaded, early) :=
    Settings.loadQuietlyWith decoders volume surroundings.environment (options.settings.getD []) none
  let fresh : Log.Journal := {}
  let errors := shown fresh surroundings early
  match loaded with
  | .error (.problem cause) =>
      let note := record Log.error ("Settings error: ".toList ++ cause.message)
      let journal := fresh.configure (.number Log.info)
      { volume, output := [], errors := errors ++ shown journal surroundings [note],
        exit := .ok Exit.failure.number }
  | .error error => { volume, output := [], errors, exit := .error (.settings error) }
  | .ok settings =>
      let level := given options.logLevel settings.logLevel
      let journal := ((fresh.configure (.name level)).setRunId surroundings.freshRunId []).2
      let work := runSource volume surroundings.writeTime settings options
      { volume := work.volume, output := [],
        errors := errors ++ shown journal surroundings work.records,
        exit := work.outcome.map Exit.number }

def misuseNumber : Nat := 2

/-- Runs a command line, with the settings file read as the decoders say. -/
def run (volume : FileTree.Volume) (surroundings : Surroundings) (words : List Text)
    (decoders : Settings.Decoders := {}) : Result :=
  match parse words with
  | .help => { volume, output := help, errors := [], exit := .ok 0 }
  | .misuse message =>
      { volume, output := [], errors := misuseText message, exit := .ok misuseNumber }
  | .run options => runOptions volume surroundings options decoders

end ScriptDocs.CommandLine
