import Mathlib.Algebra.Ring.Nat
import ScriptDocs.Batch
import ScriptDocs.Proofs.FileTree.Normalization

namespace ScriptDocs.Batch

/-!
What a run over a directory returns. Each script that was found is accounted for once: as failed, as
processed without documentation, or by its document among the results, in the order of the scripts. A run
that is to end at the first failure differs only if there is one.
-/

/-- Why a script fails. -/
def failure? (volume : FileTree.Volume) (path : Text) : Option Loading.LoadError :=
  match (Loading.parse volume path).1 with
  | .ok _ => none
  | .error error => some error

theorem isValid_iff {document : Document} : document.isValid = true ↔ 0 < document.entityCount := by
  simp only [Document.isValid, Document.entityCount, Bool.not_eq_true', Bool.and_eq_false_iff,
    List.isEmpty_eq_false_iff, ← List.length_pos_iff]
  omega

/-- The documents and counts of some scripts. -/
structure Accounts (volume : FileTree.Volume) (scripts : List Text) (documents : List Document)
    (stats : Stats) : Prop where
  kept : documents = scripts.filterMap fun path =>
    (Loading.parse volume path).1.toOption.filter (fun document => 0 < document.entityCount)
  failed : stats.filesFailed = scripts.countP (fun path => (failure? volume path).isSome)
  processed : stats.filesProcessed + stats.filesFailed = scripts.length
  undocumented : stats.filesUndocumented + documents.length = stats.filesProcessed
  entities : stats.entitiesExtracted = (documents.map Document.entityCount).sum

theorem Accounts.parsed {volume : FileTree.Volume} {scripts : List Text} {documents : List Document}
    {stats : Stats} (accounts : Accounts volume scripts documents stats) {document : Document}
    (member : document ∈ documents) :
    ∃ path ∈ scripts, (Loading.parse volume path).1 = .ok document ∧ 0 < document.entityCount := by
  rw [accounts.kept] at member
  obtain ⟨path, inside, taken⟩ := List.mem_filterMap.mp member
  obtain ⟨loaded, filled⟩ := Option.filter_eq_some_iff.mp taken
  refine ⟨path, inside, ?_, by simpa using filled⟩
  cases outcome : (Loading.parse volume path).1 with
  | error error => simp [outcome, Except.toOption] at loaded
  | ok other => simpa [outcome, Except.toOption] using loaded

section Step

variable {volume : FileTree.Volume} {scripts : List Text} {harvest : Harvest} {path : Text}
  (accounts : Accounts volume scripts harvest.documents harvest.stats)

include accounts

theorem Accounts.addFailure {error : Loading.LoadError} (failed : (Loading.parse volume path).1 = .error error) :
    Accounts volume (scripts ++ [path]) harvest.addFailure.documents harvest.addFailure.stats := by
  have counted : failure? volume path = some error := by
    rw [failure?, failed]
  have processed := accounts.processed
  constructor
  · simp [Harvest.addFailure, accounts.kept, failed, Except.toOption]
  · simp [Harvest.addFailure, accounts.failed, List.countP_append, counted]
  · rw [List.length_append, List.length_singleton]
    simp only [Harvest.addFailure]
    omega
  · exact accounts.undocumented
  · exact accounts.entities

theorem Accounts.addDocument {document : Document} (loaded : (Loading.parse volume path).1 = .ok document) :
    Accounts volume (scripts ++ [path]) (harvest.addDocument path document).documents
      (harvest.addDocument path document).stats := by
  have fine : failure? volume path = none := by
    rw [failure?, loaded]
  have processed := accounts.processed
  have undocumented := accounts.undocumented
  unfold Harvest.addDocument
  dsimp only
  split
  · rename_i valid
    constructor
    · simp [accounts.kept, loaded, Except.toOption, Option.filter, isValid_iff.mp valid]
    · simp [accounts.failed, List.countP_append, fine]
    · simp only [List.length_append, List.length_singleton]
      omega
    · simp only [List.length_append, List.length_singleton]
      omega
    · simp [accounts.entities]
  · rename_i invalid
    rw [isValid_iff] at invalid
    dsimp only [Harvest.log]
    constructor
    · simp [accounts.kept, loaded, Except.toOption, Option.filter, invalid]
    · simp [accounts.failed, List.countP_append, fine]
    · simp only [List.length_append, List.length_singleton]
      omega
    · dsimp only
      omega
    · exact accounts.entities

end Step

theorem gather_accounts {volume : FileTree.Volume} {done : List Text} {harvest : Harvest}
    (accounts : Accounts volume done harvest.documents harvest.stats) (scripts : List Text) :
    ∃ after, gather volume true harvest scripts = (.ok (), after) ∧
      Accounts volume (done ++ scripts) after.documents after.stats := by
  induction scripts generalizing done harvest with
  | nil => exact ⟨harvest, rfl, by simpa using accounts⟩
  | cons path rest ih =>
      have shift : done ++ path :: rest = (done ++ [path]) ++ rest := by simp
      rw [gather, shift]
      cases loaded : Loading.parse volume path with
      | mk outcome records =>
          have logged : Accounts volume done
              { harvest with records := harvest.records ++ records }.documents
              { harvest with records := harvest.records ++ records }.stats := accounts
          cases outcome with
          | error error => exact ih (logged.addFailure (congrArg Prod.fst loaded))
          | ok document => exact ih (logged.addDocument (congrArg Prod.fst loaded))

/-- A run that is to end at the first failure does, and without one it goes on to the end. -/
theorem gather_firstFailure (volume : FileTree.Volume) (harvest : Harvest) (scripts : List Text) :
    (∀ error, scripts.findSome? (failure? volume) = some error →
      (gather volume false harvest scripts).1 = .error error) ∧
    (scripts.findSome? (failure? volume) = none →
      gather volume false harvest scripts = gather volume true harvest scripts) := by
  induction scripts generalizing harvest with
  | nil => simp [gather]
  | cons path rest ih =>
      rw [List.findSome?_cons, gather, gather, failure?]
      cases loaded : Loading.parse volume path with
      | mk outcome records =>
          cases outcome with
          | error error => simp
          | ok document => exact ih _

theorem parseDirectory_accounts {volume : FileTree.Volume} {directory : Text}
    (there : volume.isDirectory (volume.absolute directory) = true) (extensions : List Text) :
    ∃ documents stats, (parseDirectory volume directory true extensions).1 = .ok (documents, stats) ∧
      Accounts volume (FileTree.discover volume directory extensions).1 documents stats := by
  rw [parseDirectory, FileTree.discover_absolute]
  cases found : FileTree.discover volume directory extensions with
  | mk scripts records =>
      have start : Accounts volume [] { records : Harvest }.documents { records : Harvest }.stats :=
        ⟨rfl, rfl, rfl, rfl, rfl⟩
      obtain ⟨after, gathered, accounts⟩ := gather_accounts start scripts
      simp only [there, gathered]
      cases scripts with
      | nil => exact ⟨[], {}, rfl, start⟩
      | cons path rest => exact ⟨after.documents, after.stats, by simp [Harvest.log], accounts⟩

theorem accounts_of_parseDirectory {volume : FileTree.Volume} {directory : Text} {extensions : List Text}
    {documents : List Document} {stats : Stats}
    (parsed : (parseDirectory volume directory true extensions).1 = .ok (documents, stats)) :
    Accounts volume (FileTree.discover volume directory extensions).1 documents stats := by
  have there : volume.isDirectory (volume.absolute directory) = true := by
    cases isThere : volume.isDirectory (volume.absolute directory) with
    | true => rfl
    | false =>
        rw [parseDirectory, isThere] at parsed
        contradiction
  obtain ⟨_, _, same, accounts⟩ := parseDirectory_accounts there extensions
  cases parsed.symm.trans same
  exact accounts

theorem parseDirectory_firstFailure {volume : FileTree.Volume} {directory : Text}
    (there : volume.isDirectory (volume.absolute directory) = true) (extensions : List Text) :
    (∀ error, (FileTree.discover volume directory extensions).1.findSome? (failure? volume) = some error →
      (parseDirectory volume directory false extensions).1 = .error (.script error)) ∧
    ((FileTree.discover volume directory extensions).1.findSome? (failure? volume) = none →
      parseDirectory volume directory false extensions = parseDirectory volume directory true extensions) := by
  rw [parseDirectory, parseDirectory, FileTree.discover_absolute]
  cases found : FileTree.discover volume directory extensions with
  | mk scripts records =>
      obtain ⟨stops, goesOn⟩ := gather_firstFailure volume { records } scripts
      simp only [there]
      constructor
      · intro error first
        have stopped := stops error first
        cases scripts with
        | nil => simp at first
        | cons path rest =>
            cases gathered : gather volume false { records } (path :: rest) with
            | mk outcome after =>
                rw [gathered] at stopped
                subst stopped
                simp
      · intro clean
        rw [goesOn clean]

end ScriptDocs.Batch
