import ScriptDocs.FileTree.Discovery
import ScriptDocs.Loading

namespace ScriptDocs.Batch

/-!
Loading every script below a directory. Each script that was found is counted once: as failed, as
processed without documentation, or as processed with its document among the results.
-/

structure Stats where
  filesProcessed : Nat := 0
  filesFailed : Nat := 0
  filesUndocumented : Nat := 0
  entitiesExtracted : Nat := 0
  deriving DecidableEq, Repr

def Stats.text (stats : Stats) : Text :=
  "ExtractionStats(processed=".toList ++ Text.ofNat stats.filesProcessed ++ ", failed=".toList ++
    Text.ofNat stats.filesFailed ++ ", undocumented=".toList ++ Text.ofNat stats.filesUndocumented ++
    ", entities=".toList ++ Text.ofNat stats.entitiesExtracted ++ ")".toList

/-- Why a run over a directory gives no result. -/
inductive BatchError where
  | notFound (directory : Text)
  | script (error : Loading.LoadError)
  deriving DecidableEq, Repr

def BatchError.message : BatchError → Text
  | .notFound directory => "Directory not found: ".toList ++ directory
  | .script error => error.message

/-- What was gathered from some scripts. -/
structure Harvest where
  documents : List Document := []
  stats : Stats := {}
  records : List Log.Record := []
  deriving DecidableEq, Repr

def undocumentedMessage (path : Text) : Text :=
  "File ".toList ++ path ++ " doesn't contain documentation".toList

namespace Harvest

def log (harvest : Harvest) (level : Int) (message : Text) : Harvest :=
  { harvest with
    records := harvest.records ++ [{ level, logger := Log.extractor, message }] }

def addDocument (harvest : Harvest) (path : Text) (document : Document) : Harvest :=
  let stats := { harvest.stats with filesProcessed := harvest.stats.filesProcessed + 1 }
  if document.isValid then
    { harvest with
      documents := harvest.documents ++ [document]
      stats :=
        { stats with entitiesExtracted := stats.entitiesExtracted + document.entityCount } }
  else
    { harvest with
      stats := { stats with filesUndocumented := stats.filesUndocumented + 1 } }.log
        Log.warning (undocumentedMessage path)

def addFailure (harvest : Harvest) : Harvest :=
  { harvest with
    stats := { harvest.stats with filesFailed := harvest.stats.filesFailed + 1 } }

end Harvest

/-- Loads scripts one after the other. The first failure ends the run unless it is to go on. -/
def gather (volume : FileTree.Volume) (continueOnError : Bool) (harvest : Harvest) :
    List Text → Except Loading.LoadError Unit × Harvest
  | [] => (.ok (), harvest)
  | path :: rest =>
      let (outcome, records) := Loading.parse volume path
      let harvest := { harvest with records := harvest.records ++ records }
      match outcome with
      | .ok document => gather volume continueOnError (harvest.addDocument path document) rest
      | .error error =>
          if continueOnError then gather volume continueOnError harvest.addFailure rest
          else (.error error, harvest.addFailure)

/-- Loads every script below a directory. -/
def parseDirectory (volume : FileTree.Volume) (directory : Text) (continueOnError : Bool)
    (extensions : List Text) :
    Except BatchError (List Document × Stats) × List Log.Record :=
  let path := volume.absolute directory
  if !volume.isDirectory path then (.error (.notFound path), [])
  else
    let (scripts, records) := FileTree.discover volume path extensions
    let harvest : Harvest := { records }
    if scripts.isEmpty then
      let harvest := harvest.log Log.warning ("No shell scripts found in ".toList ++ path)
      (.ok (harvest.documents, harvest.stats), harvest.records)
    else
      match gather volume continueOnError harvest scripts with
      | (.error error, harvest) => (.error (.script error), harvest.records)
      | (.ok (), harvest) =>
          let harvest :=
            harvest.log Log.info ("Extraction complete: ".toList ++ harvest.stats.text)
          (.ok (harvest.documents, harvest.stats), harvest.records)

end ScriptDocs.Batch
