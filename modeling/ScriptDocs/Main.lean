import ScriptDocs.CommandLine.Clock
import ScriptDocs.CommandLine.Run
import Std.Time.DateTime.Timestamp

namespace ScriptDocs.Main

/-!
The program on a real file system. What a run may look at is read into a volume first; then the run is
a function of that volume, and what it changed is written back.
-/

/-- A path as the system takes it. -/
def systemText (path : Text) : String :=
  String.ofList path

/-- The bytes of a file; one that cannot be read is not readable. -/
def captureFile (path : Text) : IO FileTree.Entry := do
  try
    return .file (← IO.FS.readBinFile (systemText path)).toList .readable
  catch _ => return .file [] .unreadable

/-- The entry at a path with everything below it. A link to a directory stays a link, so that it is not
entered. -/
partial def capture (path : Text) : IO (Option FileTree.Entry) := do
  let place := (← IO.currentDir) / systemText path
  try
    let type := (← place.metadata).type
    if type == .file then return some (← captureFile path)
    if type != .dir then return some .pipe
    if (← place.symlinkMetadata).type == .symlink then
      return some (.link (← IO.FS.realPath place).toString.toList)
    let mut children := []
    for child in ← place.readDir do
      let name := child.fileName.toList
      if let some entry ← capture (Path.join path name) then
        children := (name, entry) :: children
    return some (.directory children)
  catch _ => return none

/-- The steps of an absolute path. -/
def placeOf (path : Text) : FileTree.Place :=
  (Path.steps path).filter (fun step => !Path.isIdle step)

/-- Puts what is at an absolute place into a tree, with the entries on the way to it and, if it is a
link, with what it leads to. -/
partial def captureAt (tree : FileTree.Entry) (done rest : FileTree.Place) : IO FileTree.Entry := do
  let path := Path.separator :: Text.joinWith [Path.separator] done
  match rest with
  | [] =>
      match ← capture path with
      | some (.link target) => captureAt (tree.put done (.link target)) [] (placeOf target)
      | some entry => return tree.put done entry
      | none => return tree
  | step :: rest =>
      if ← ((← IO.currentDir) / systemText path).isDir then
        let tree := if (tree.at? done).isSome then tree else tree.put done (.directory [])
        captureAt tree (done ++ [step]) rest
      else captureAt tree done []

/-- The volume with what is at some paths. -/
def captureAll (workingDirectory : FileTree.Place) (paths : List Text) : IO FileTree.Volume := do
  let empty : FileTree.Volume := ⟨(FileTree.Entry.directory []).put workingDirectory (.directory []),
    workingDirectory⟩
  let tree ← paths.foldlM (fun tree path => captureAt tree [] (placeOf (empty.absolute path))) empty.root
  return { empty with root := tree }

def captureEnvironment : IO Environment := do
  let read (name : String) : IO (Option Text) := do return (← IO.getEnv name).map String.toList
  return { logLevel := ← read "SHDOC_LOG_LEVEL", outputDirectory := ← read "SHDOC_OUTPUT_DIR",
           strict := ← read "SHDOC_STRICT_SETTINGS" }

def captureSurroundings : IO CommandLine.Surroundings := do
  let now := (← Std.Time.Timestamp.now).toNanosecondsSinceUnixEpoch.val.toNat / 1000
  let bytes ← IO.getRandomBytes 16
  return { environment := ← captureEnvironment
           writeTime := CommandLine.writeTime now
           recordTime := CommandLine.recordTime now
           freshRunId := CommandLine.runIdText bytes.toList }

mutual

def directories (here : FileTree.Place) : FileTree.Entry → List FileTree.Place
  | .directory children => here :: directoriesIn here children
  | _ => []

def directoriesIn (here : FileTree.Place) : List (Text × FileTree.Entry) → List FileTree.Place
  | [] => []
  | (name, entry) :: rest => directories (here ++ [name]) entry ++ directoriesIn here rest

end

/-- Makes the directories and writes the files that a run added or changed. -/
def writeBack (before after : FileTree.Volume) : IO Unit := do
  let pathOf (place : FileTree.Place) : String :=
    systemText (Path.separator :: Text.joinWith [Path.separator] place)
  for place in directories [] after.root do
    if (before.root.at? place).isNone then IO.FS.createDirAll (pathOf place)
  let old := before.root.regularFiles []
  for (place, content) in after.root.regularFiles [] do
    if !old.contains (place, content) then
      IO.FS.writeBinFile (pathOf place) ⟨content.toArray⟩

/-- The paths that a command line makes a run look at. -/
def pathsOf (volume : FileTree.Volume) (environment : Environment) (options : CommandLine.Options) :
    List Text :=
  let settingsPath := options.settings.getD []
  match (Settings.load volume environment settingsPath none).1 with
  | .ok settings =>
      [options.source, CommandLine.given options.outputDirectory settings.outputDirectory]
  | .error _ => []

end ScriptDocs.Main

open ScriptDocs in
/-- Runs the program and gives the number with which it ends. -/
def main (words : List String) : IO UInt32 := do
  let words := words.map String.toList
  let surroundings ← Main.captureSurroundings
  let workingDirectory := Main.placeOf (← IO.currentDir).toString.toList
  let volume ←
    match CommandLine.parse words with
    | .run options => do
        let settingsPaths := options.settings.toList
        let volume ← Main.captureAll workingDirectory settingsPaths
        Main.captureAll workingDirectory
          (settingsPaths ++ Main.pathsOf volume surroundings.environment options)
    | _ => Main.captureAll workingDirectory []
  let result := CommandLine.run volume surroundings words
  Main.writeBack volume result.volume
  IO.print (String.ofList result.output)
  IO.eprint (String.ofList result.errors)
  match result.exit with
  | .ok number => return number.toUInt32
  | .error cause =>
      IO.eprintln (String.ofList cause.message)
      return 1
