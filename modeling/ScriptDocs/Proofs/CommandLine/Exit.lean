import ScriptDocs.Proofs.CommandLine.Accounts
import ScriptDocs.Proofs.CommandLine.Directory
import ScriptDocs.Proofs.FileTree.Writing
import ScriptDocs.Proofs.Settings.Mapping

/-!
What the number of a run says about the volume. A run that ends without documents has changed nothing, nor
has one that ends for its settings or for its script; a run over a script that succeeds has written one
file, which holds what was asked for; and a run over a directory that succeeds has read every script and
written a document.
-/

namespace ScriptDocs.CommandLine

open FileTree Batch
open FileTree.Volume (Wrote)
open Settings (said)

/-! ### What was asked for -/

/-- The document under the title and with the entities that the options ask for, if they do. -/
def asked (options : Options) (document : Document) : Document :=
  let titled := ((said options.name).map document.withTitle).getD document
  ((said options.find).map titled.find).getD titled

theorem select_eq_asked (options : Options) (document : Document) :
    select options.name options.find document = asked options document := by
  obtain ⟨source, name, find, _, _, _⟩ := options
  rcases name with _ | _ | _ <;> rcases find with _ | _ | _ <;> rfl

theorem given_eq_said (option : Option Text) (otherwise : Text) :
    given option otherwise = (said option).getD otherwise := by
  rcases option with _ | _ | _ <;> rfl

/-- Where a run with these settings and options writes. -/
def destinationOf (settings : Settings) (options : Options) : Destination where
  directory := (said options.outputDirectory).getD settings.outputDirectory
  indent := settings.jsonIndent

/-! ### Writes -/

theorem afterFailedWrite_ok {error : Artifact.WriteError} {exit : Exit}
    (ended : (afterFailedWrite error).2 = .ok exit) : exit = .failure := by
  unfold afterFailedWrite at ended
  split at ended
  · cases ended
    rfl
  · contradiction

section Writing

variable {volume : Volume} {writeTime : Text} {destination : Destination}

theorem writeDocument_wrote {after : Volume} {document : Document} {path : Text}
    (wrote : writeDocument volume writeTime destination document = (after, .ok path)) :
    ∃ place, Wrote volume after (Artifact.path document.title destination.directory)
      (documentBytes writeTime destination document) place := by
  obtain ⟨_, _, middle, made, written⟩ := writeDocument_ok_iff.mp wrote
  obtain ⟨place, wroteFile⟩ := Volume.write_wrote written
  have same : middle = (volume.ensureDirectories destination.directory).1 := by
    rw [made]
  subst same
  exact ⟨place, wroteFile.after_directories⟩

/-- The last document that is written is held, whatever the others were. -/
theorem writeAll_getLast {documents : List Document} (filled : documents ≠ [])
    (succeeded : (writeAll volume writeTime destination documents).2.2 = .ok ()) :
    ∃ place, HeldAt (writeAll volume writeTime destination documents).1 writeTime destination
      (documents.getLast filled) place := by
  induction documents generalizing volume with
  | nil => contradiction
  | cons first rest ih =>
      obtain ⟨after, path, wrote, restSucceeded⟩ := writeAll_cons_ok_iff.mp succeeded
      rw [writeAll_cons_volume wrote]
      -- Nothing is written after the last one, so its file need not be its own.
      cases rest with
      | nil =>
          obtain ⟨place, wroteFile⟩ := writeDocument_wrote wrote
          exact ⟨place, wroteFile.found⟩
      | cons second others =>
          rw [List.getLast_cons (by simp)]
          exact ih (by simp) restSucceeded

end Writing

/-! ### Parts of a run -/

section Parts

variable {volume : Volume} {writeTime : Text} {destination : Destination}

theorem runScript_failed {options : Options} {error : Loading.LoadError}
    (parsed : (Loading.parse volume options.source).1 = .error error) :
    (runScript volume writeTime destination options).volume = volume ∧
      (runScript volume writeTime destination options).outcome = .ok .failure := by
  rw [runScript]
  cases loaded : Loading.parse volume options.source with
  | mk outcome records =>
      rw [loaded] at parsed
      subst parsed
      exact ⟨rfl, rfl⟩

theorem runScript_undocumented {options : Options} {document : Document}
    (parsed : (Loading.parse volume options.source).1 = .ok document) (empty : document.entityCount = 0) :
    (runScript volume writeTime destination options).volume = volume ∧
      (runScript volume writeTime destination options).outcome = .ok .noDocuments := by
  have invalid : ¬ document.isValid = true := by
    rw [isValid_iff]
    omega
  rw [runScript]
  cases loaded : Loading.parse volume options.source with
  | mk outcome records =>
      rw [loaded] at parsed
      subst parsed
      simp [invalid]

/-- A script with documentation: its document is written, or the failure to do so decides. -/
theorem runScript_documented {options : Options} {document : Document}
    (parsed : (Loading.parse volume options.source).1 = .ok document) (filled : 0 < document.entityCount) :
    (∃ after path, writeDocument volume writeTime destination (asked options document) = (after, .ok path) ∧
      (runScript volume writeTime destination options).volume = after ∧
      (runScript volume writeTime destination options).outcome = .ok .success) ∨
    ∃ after error,
      writeDocument volume writeTime destination (asked options document) = (after, .error error) ∧
      (runScript volume writeTime destination options).outcome = (afterFailedWrite error).2 := by
  rw [runScript]
  cases loaded : Loading.parse volume options.source with
  | mk outcome records =>
      rw [loaded] at parsed
      subst parsed
      simp only [if_pos (isValid_iff.mpr filled), select_eq_asked]
      cases written : writeDocument volume writeTime destination (asked options document) with
      | mk after result =>
          cases result with
          | ok path => exact .inl ⟨after, path, rfl, rfl, rfl⟩
          | error error => exact .inr ⟨after, error, rfl, rfl⟩

/-- All that a run over a directory can do. -/
theorem runDirectory_cases (volume : Volume) (writeTime : Text) (destination : Destination) (directory : Text)
    (extensions : List Text) :
    let work := runDirectory volume writeTime destination directory extensions
    work.outcome = .ok .failure ∨ (∃ error, work.outcome = (afterFailedWrite error).2) ∨
      ∃ documents stats, (parseDirectory volume directory true extensions).1 = .ok (documents, stats) ∧
        (writeAll volume writeTime destination documents).2.2 = .ok () ∧
        work.volume = (writeAll volume writeTime destination documents).1 ∧
        work.outcome = .ok (directoryExit documents stats) := by
  dsimp only
  cases parsed : (parseDirectory volume directory true extensions).1 with
  | error error =>
      left
      rw [runDirectory]
      cases loaded : parseDirectory volume directory true extensions with
      | mk outcome records =>
          rw [loaded] at parsed
          subst parsed
          rfl
  | ok result =>
      obtain ⟨documents, stats⟩ := result
      right
      cases written : (writeAll volume writeTime destination documents).2.2 with
      | ok done =>
          right
          exact ⟨documents, stats, rfl, written, runDirectory_volume parsed, runDirectory_outcome parsed written⟩
      | error error =>
          left
          refine ⟨error, ?_⟩
          rw [runDirectory]
          cases loaded : parseDirectory volume directory true extensions with
          | mk outcome records =>
              rw [loaded] at parsed
              subst parsed
              simp only [written]

theorem runSource_script {settings : Settings} {options : Options}
    (single : volume.isDirectory options.source = false) :
    runSource volume writeTime settings options =
      runScript volume writeTime (destinationOf settings options) options := by
  rw [runSource, single, given_eq_said]
  rfl

theorem runSource_directory {settings : Settings} {options : Options}
    (there : volume.isDirectory options.source = true) :
    runSource volume writeTime settings options =
      runDirectory volume writeTime (destinationOf settings options) options.source
        settings.scriptExtensions := by
  rw [runSource, there, given_eq_said]
  rfl

end Parts

/-! ### Whole runs -/

/-- The settings of a run, its file read as the decoders say. -/
def settingsOf (decoders : Settings.Decoders) (volume : Volume) (surroundings : Surroundings)
    (options : Options) : Except Settings.LoadError Settings :=
  (Settings.loadQuietlyWith decoders volume surroundings.environment (options.settings.getD []) none).1

section Whole

variable {decoders : Settings.Decoders} {volume : Volume} {surroundings : Surroundings} {options : Options}

theorem runOptions_problem {problem : Settings.Problem}
    (loaded : settingsOf decoders volume surroundings options = .error (.problem problem)) :
    (runOptions volume surroundings options decoders).exit = .ok 1 ∧
      (runOptions volume surroundings options decoders).volume = volume := by
  rw [settingsOf] at loaded
  rw [runOptions]
  cases loading : Settings.loadQuietlyWith decoders volume surroundings.environment
    (options.settings.getD []) none with
  | mk outcome records =>
      rw [loading] at loaded
      subst loaded
      exact ⟨rfl, rfl⟩

theorem runOptions_broken {error : Settings.LoadError}
    (loaded : settingsOf decoders volume surroundings options = .error error)
    (other : ∀ problem, error ≠ .problem problem) :
    (runOptions volume surroundings options decoders).exit = .error (.settings error) ∧
      (runOptions volume surroundings options decoders).volume = volume := by
  rw [settingsOf] at loaded
  rw [runOptions]
  cases loading : Settings.loadQuietlyWith decoders volume surroundings.environment
    (options.settings.getD []) none with
  | mk outcome records =>
      rw [loading] at loaded
      subst loaded
      cases error with
      | problem cause => exact absurd rfl (other cause)
      | nullByte => exact ⟨rfl, rfl⟩
      | waiting => exact ⟨rfl, rfl⟩
      | notUtf8 fault => exact ⟨rfl, rfl⟩
      | obstacle cause => exact ⟨rfl, rfl⟩
      | overlong => exact ⟨rfl, rfl⟩
      | tooDeep => exact ⟨rfl, rfl⟩

theorem runOptions_loaded {settings : Settings}
    (loaded : settingsOf decoders volume surroundings options = .ok settings) :
    (runOptions volume surroundings options decoders).exit =
        (runSource volume surroundings.writeTime settings options).outcome.map Exit.number ∧
      (runOptions volume surroundings options decoders).volume =
        (runSource volume surroundings.writeTime settings options).volume := by
  rw [settingsOf] at loaded
  rw [runOptions]
  cases loading : Settings.loadQuietlyWith decoders volume surroundings.environment
    (options.settings.getD []) none with
  | mk outcome records =>
      rw [loading] at loaded
      subst loaded
      exact ⟨rfl, rfl⟩

/-- A run that ends with another number than that of a failure has its settings, and the number is that of
its work. -/
theorem runOptions_returned (exit : Exit) (unfailed : exit ≠ .failure)
    (returned : (runOptions volume surroundings options decoders).exit = .ok exit.number) :
    ∃ settings, settingsOf decoders volume surroundings options = .ok settings ∧
      (runSource volume surroundings.writeTime settings options).outcome = .ok exit ∧
      (runOptions volume surroundings options decoders).volume =
        (runSource volume surroundings.writeTime settings options).volume := by
  cases loaded : settingsOf decoders volume surroundings options with
  | error error =>
      by_cases problem : ∃ cause, error = .problem cause
      · obtain ⟨cause, rfl⟩ := problem
        rw [(runOptions_problem loaded).1] at returned
        cases exit <;> simp [Exit.number] at returned unfailed
      · have other : ∀ cause, error ≠ .problem cause := fun cause same => problem ⟨cause, same⟩
        rw [(runOptions_broken loaded other).1] at returned
        contradiction
  | ok settings =>
      obtain ⟨ended, after⟩ := runOptions_loaded loaded
      refine ⟨settings, rfl, ?_, after⟩
      rw [ended] at returned
      cases outcome : (runSource volume surroundings.writeTime settings options).outcome with
      | error breakdown =>
          rw [outcome] at returned
          contradiction
      | ok other =>
          rw [outcome] at returned
          cases other <;> cases exit <;> first | rfl | simp [Except.map, Exit.number] at returned

/-- What the number of a run tells. -/
structure Tells (decoders : Settings.Decoders) (volume : Volume) (surroundings : Surroundings)
    (options : Options) (result : Result) : Prop where
  noDocuments : result.exit = .ok 2 → result.volume = volume
  script : result.exit = .ok 0 → volume.isDirectory options.source = false →
    ∃ settings document place, settingsOf decoders volume surroundings options = .ok settings ∧
      (Loading.parse volume options.source).1 = .ok document ∧ 0 < document.entityCount ∧
      Wrote volume result.volume
        (Artifact.path (asked options document).title (destinationOf settings options).directory)
        (documentBytes surroundings.writeTime (destinationOf settings options) (asked options document)) place
  directory : result.exit = .ok 0 → volume.isDirectory options.source = true →
    ∃ settings, settingsOf decoders volume surroundings options = .ok settings ∧
      (∀ path ∈ (discover volume options.source settings.scriptExtensions).1, failure? volume path = none) ∧
      ∃ path ∈ (discover volume options.source settings.scriptExtensions).1, ∃ document place,
        (Loading.parse volume path).1 = .ok document ∧ 0 < document.entityCount ∧
        HeldAt result.volume surroundings.writeTime (destinationOf settings options) document place
  problem : ∀ cause, settingsOf decoders volume surroundings options = .error (.problem cause) →
    result.exit = .ok 1 ∧ result.volume = volume
  unparsed : ∀ error, volume.isDirectory options.source = false →
    (Loading.parse volume options.source).1 = .error error →
    result.volume = volume ∧ (result.exit = .ok 1 ∨
      ∃ cause, settingsOf decoders volume surroundings options = .error cause ∧
        ∀ problem, cause ≠ .problem problem)

theorem runSource_noDocuments {writeTime : Text} {settings : Settings}
    (ended : (runSource volume writeTime settings options).outcome = .ok .noDocuments) :
    (runSource volume writeTime settings options).volume = volume := by
  cases sort : volume.isDirectory options.source with
  | true =>
      rw [runSource_directory sort] at ended ⊢
      rcases runDirectory_cases volume writeTime (destinationOf settings options) options.source
        settings.scriptExtensions with failed | ⟨error, failed⟩ | ⟨documents, stats, _, _, after, exit⟩
      · rw [failed] at ended
        cases ended
      · cases afterFailedWrite_ok (failed.symm.trans ended)
      · have none := (directoryExit_number documents stats).2.1.mp
          (congrArg Exit.number (Except.ok.inj (exit.symm.trans ended)))
        rw [after, none.2]
        rfl
  | false =>
      rw [runSource_script sort] at ended ⊢
      cases parsed : (Loading.parse volume options.source).1 with
      | error error => exact (runScript_failed parsed).1
      | ok document =>
          rcases Nat.eq_zero_or_pos document.entityCount with empty | filled
          · exact (runScript_undocumented parsed empty).1
          · rcases runScript_documented parsed filled with ⟨_, _, _, _, succeeded⟩ | ⟨_, error, _, failed⟩
            · rw [succeeded] at ended
              cases ended
            · cases afterFailedWrite_ok (failed.symm.trans ended)

theorem runScript_success {writeTime : Text} {destination : Destination}
    (ended : (runScript volume writeTime destination options).outcome = .ok .success) :
    ∃ document place, (Loading.parse volume options.source).1 = .ok document ∧ 0 < document.entityCount ∧
      Wrote volume (runScript volume writeTime destination options).volume
        (Artifact.path (asked options document).title destination.directory)
        (documentBytes writeTime destination (asked options document)) place := by
  cases parsed : (Loading.parse volume options.source).1 with
  | error error =>
      rw [(runScript_failed parsed).2] at ended
      cases ended
  | ok document =>
      rcases Nat.eq_zero_or_pos document.entityCount with empty | filled
      · rw [(runScript_undocumented parsed empty).2] at ended
        cases ended
      · rcases runScript_documented parsed filled with ⟨after, path, wrote, same, _⟩ | ⟨_, error, _, failed⟩
        · obtain ⟨place, wroteFile⟩ := writeDocument_wrote wrote
          rw [same]
          exact ⟨document, place, rfl, filled, wroteFile⟩
        · cases afterFailedWrite_ok (failed.symm.trans ended)

theorem runDirectory_success {writeTime : Text} {destination : Destination} {directory : Text}
    {extensions : List Text}
    (ended : (runDirectory volume writeTime destination directory extensions).outcome = .ok .success) :
    (∀ path ∈ (discover volume directory extensions).1, failure? volume path = none) ∧
      ∃ path ∈ (discover volume directory extensions).1, ∃ document place,
        (Loading.parse volume path).1 = .ok document ∧ 0 < document.entityCount ∧
        HeldAt (runDirectory volume writeTime destination directory extensions).volume writeTime destination
          document place := by
  rcases runDirectory_cases volume writeTime destination directory extensions with
    failed | ⟨error, failed⟩ | ⟨documents, stats, parsed, succeeded, after, exit⟩
  · rw [failed] at ended
    cases ended
  · cases afterFailedWrite_ok (failed.symm.trans ended)
  · obtain ⟨clean, filled⟩ := (directoryExit_number documents stats).2.2.mp
      (congrArg Exit.number (Except.ok.inj (exit.symm.trans ended)))
    have accounts := accounts_of_parseDirectory parsed
    constructor
    · have counted := accounts.failed.symm.trans clean
      rw [List.countP_eq_zero] at counted
      intro path member
      simpa using counted path member
    · obtain ⟨path, member, loaded, documented⟩ := accounts.parsed (List.getLast_mem filled)
      obtain ⟨place, held⟩ := writeAll_getLast filled succeeded
      rw [after]
      exact ⟨path, member, documents.getLast filled, place, loaded, documented, held⟩

end Whole

/-- The number of a run tells what it has done to the volume: nothing, if there was nothing to document or
if the settings or the script could not be read; one file with what was asked for, if a single script went
well; and all scripts read and a document written, if a directory did. This holds for all readers of the
settings file. -/
theorem run_tells {words : List Text} {options : Options} (accepted : parse words = .run options)
    (decoders : Settings.Decoders) (volume : Volume) (surroundings : Surroundings) :
    Tells decoders volume surroundings options (run volume surroundings words decoders) := by
  have ran : run volume surroundings words decoders = runOptions volume surroundings options decoders := by
    rw [run, accepted]
  rw [ran]
  constructor
  case noDocuments =>
    intro ended
    obtain ⟨settings, _, outcome, after⟩ := runOptions_returned .noDocuments nofun ended
    rw [after]
    exact runSource_noDocuments outcome
  case script =>
    intro ended single
    obtain ⟨settings, loaded, outcome, after⟩ := runOptions_returned .success nofun ended
    rw [runSource_script single] at outcome after
    obtain ⟨document, place, parsed, filled, wrote⟩ := runScript_success outcome
    rw [after]
    exact ⟨settings, document, place, loaded, parsed, filled, wrote⟩
  case directory =>
    intro ended there
    obtain ⟨settings, loaded, outcome, after⟩ := runOptions_returned .success nofun ended
    rw [runSource_directory there] at outcome after
    rw [after]
    exact ⟨settings, loaded, runDirectory_success outcome⟩
  case problem =>
    intro cause loaded
    exact runOptions_problem loaded
  case unparsed =>
    intro error single parsed
    cases loaded : settingsOf decoders volume surroundings options with
    | ok settings =>
        obtain ⟨ended, after⟩ := runOptions_loaded loaded
        rw [runSource_script single] at ended after
        obtain ⟨same, outcome⟩ := runScript_failed parsed
        rw [outcome] at ended
        exact ⟨after.trans same, .inl ended⟩
    | error cause =>
        by_cases problem : ∃ problem, cause = .problem problem
        · obtain ⟨_, rfl⟩ := problem
          obtain ⟨ended, same⟩ := runOptions_problem loaded
          exact ⟨same, .inl ended⟩
        · have other : ∀ problem, cause ≠ .problem problem := fun one same => problem ⟨one, same⟩
          exact ⟨(runOptions_broken loaded other).2, .inr ⟨cause, rfl, other⟩⟩

/-! ### A script under another title, without the entities that were not asked for -/

section Solo

def soloVolume (others : List (Text × Entry)) : Volume where
  root := .directory (("s.sh".toList, .file (runBytes "One".toList) .readable) :: others)

def soloSurroundings : Surroundings where
  environment := {}
  writeTime := "2001-02-03T04:05:06+00:00".toList
  recordTime := []
  freshRunId := []

def soloWords : List Text :=
  ["s.sh".toList, "--name".toList, "A b".toList, "--find".toList, "walk".toList, "--output-dir".toList,
    "o".toList]

def soloOptions : Options where
  source := "s.sh".toList
  name := some "A b".toList
  find := some "walk".toList
  outputDirectory := some "o".toList

theorem solo_accepted : parse soloWords = .run soloOptions := by
  decide +kernel

theorem solo_single : (soloVolume []).isDirectory soloOptions.source = false :=
  rfl

theorem solo_parsed : (Loading.parse (soloVolume []) soloOptions.source).1 =
    .ok (runDocument "s.sh".toList "One".toList) := by
  have text : Loading.scriptText (soloVolume []) "s.sh".toList = .ok (runText "One".toList) :=
    Loading.Legible.scriptText ⟨rfl, by decide⟩
  have read : (Extraction.extract (Path.baseName "s.sh".toList) (runText "One".toList)).1 =
      runDocument "s.sh".toList "One".toList := by
    decide +kernel
  rw [soloOptions, Loading.parse, text, ← read]

theorem solo_written : ∃ after path,
    writeDocument (soloVolume []) soloSurroundings.writeTime pairDestination { title := "A b".toList } =
      (after, .ok path) := by
  have ready : (soloVolume []).ensureDirectories "o".toList =
      (soloVolume [("o".toList, .directory [])], .ok ()) :=
    rfl
  have wrote : ∀ content, (soloVolume [("o".toList, .directory [])]).write
      (Artifact.path "A b".toList "o".toList) content =
        .ok (soloVolume [("o".toList, .directory [("A_b.json".toList, .file content .readable)])]) := by
    intro content
    rfl
  have whole : (Artifact.draft Json.nestingLimit soloSurroundings.writeTime (some pairDestination.indent)
      (Document.toFields { title := "A b".toList })).2 = none := by
    decide +kernel
  exact ⟨_, _, writeDocument_ok_iff.mpr ⟨rfl, whole, _, ready, wrote _⟩⟩

theorem solo_success : (run (soloVolume []) soloSurroundings soloWords).exit = .ok 0 := by
  have loaded : settingsOf {} (soloVolume []) soloSurroundings soloOptions = .ok {} := rfl
  rw [run, solo_accepted]
  refine (runOptions_loaded loaded).1.trans ?_
  rw [runSource_script solo_single]
  rcases runScript_documented solo_parsed (by decide) with ⟨_, _, _, _, succeeded⟩ | ⟨_, _, failed, _⟩
  · rw [succeeded]
    rfl
  · obtain ⟨_, _, wrote⟩ := solo_written
    cases wrote.symm.trans failed

end Solo

theorem run_tells_solo :
    (run (soloVolume []) soloSurroundings soloWords).exit = .ok 0 ∧
      ∃ place, Wrote (soloVolume []) (run (soloVolume []) soloSurroundings soloWords).volume
        "o/A_b.json".toList
        (documentBytes soloSurroundings.writeTime pairDestination { title := "A b".toList }) place := by
  have tells := run_tells solo_accepted {} (soloVolume []) soloSurroundings
  obtain ⟨settings, document, place, loaded, parsed, _, wrote⟩ := tells.script solo_success solo_single
  cases loaded
  cases solo_parsed.symm.trans parsed
  exact ⟨solo_success, place, wrote⟩

end ScriptDocs.CommandLine
