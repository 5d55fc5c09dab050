import ScriptDocs.CommandLine.Run
import ScriptDocs.Proofs.Batch
import ScriptDocs.Proofs.FileTree.Discovery
import ScriptDocs.Proofs.Loading

/-!
The accounts of a run over a directory, and the number that it ends with. The directory is the one that
its absolute path leads to: a step back after a link is taken back as text, so that another path to a
directory may lead nowhere.
-/

namespace ScriptDocs.CommandLine

open FileTree Batch

theorem runDirectory_outcome {volume : Volume} {writeTime : Text} {destination : Destination}
    {directory : Text} {extensions : List Text} {documents : List Document} {stats : Stats}
    (parsed : (parseDirectory volume directory true extensions).1 = .ok (documents, stats))
    (succeeded : (writeAll volume writeTime destination documents).2.2 = .ok ()) :
    (runDirectory volume writeTime destination directory extensions).outcome =
      .ok (directoryExit documents stats) := by
  rw [runDirectory]
  cases loaded : parseDirectory volume directory true extensions with
  | mk outcome records =>
      rw [loaded] at parsed
      subst parsed
      cases written : writeAll volume writeTime destination documents with
      | mk after result =>
          obtain ⟨notes, outcome⟩ := result
          rw [written] at succeeded
          subst succeeded
          simp only [written]

theorem directoryExit_number (documents : List Document) (stats : Stats) :
    ((directoryExit documents stats).number = 1 ↔ 0 < stats.filesFailed) ∧
      ((directoryExit documents stats).number = 2 ↔ stats.filesFailed = 0 ∧ documents = []) ∧
      ((directoryExit documents stats).number = 0 ↔ stats.filesFailed = 0 ∧ documents ≠ []) := by
  unfold directoryExit
  split
  · rename_i failed
    simp [Exit.number, failed, Nat.ne_of_gt failed]
  · rename_i clean
    have none : stats.filesFailed = 0 := by omega
    cases documents <;> simp [Exit.number, none]

/-- A run over a directory accounts for every script that is found in it, and ends with a number that says
whether one failed and whether there are documents. -/
theorem parseDirectory_tally {volume : Volume} {directory : Text}
    (there : volume.isDirectory (volume.absolute directory) = true) (extensions : List Text) :
    ∃ documents stats,
      (parseDirectory volume directory true extensions).1 = .ok (documents, stats) ∧
      Accounts volume (discover volume directory extensions).1 documents stats ∧
      (∀ error, (discover volume directory extensions).1.findSome? (failure? volume) = some error →
        (parseDirectory volume directory false extensions).1 = .error (.script error)) ∧
      ((discover volume directory extensions).1.findSome? (failure? volume) = none →
        (parseDirectory volume directory false extensions).1 = .ok (documents, stats)) ∧
      ∀ writeTime destination, (writeAll volume writeTime destination documents).2.2 = .ok () →
        ∃ exit, (runDirectory volume writeTime destination directory extensions).outcome = .ok exit ∧
          (exit.number = 1 ↔ 0 < stats.filesFailed) ∧
          (exit.number = 2 ↔ stats.filesFailed = 0 ∧ documents = []) ∧
          (exit.number = 0 ↔ stats.filesFailed = 0 ∧ documents ≠ []) := by
  obtain ⟨documents, stats, parsed, accounts⟩ := parseDirectory_accounts there extensions
  obtain ⟨stops, goesOn⟩ := parseDirectory_firstFailure there extensions
  refine ⟨documents, stats, parsed, accounts, stops, ?_, ?_⟩
  · intro clean
    rw [goesOn clean, parsed]
  · intro writeTime destination succeeded
    exact ⟨_, runDirectory_outcome parsed succeeded, directoryExit_number documents stats⟩

/-! ### Three scripts, of which one fails and one documents nothing -/

section Mixed

def mixedVolume : Volume where
  root := .directory [("s".toList, .directory
    [("c.sh".toList, .file (Utf8.encode "#!/bin/sh\n# Say\nrun() (\n".toList) .readable),
     ("b.sh".toList, .file [] .readable),
     ("a.sh".toList, .file (Utf8.encode "echo\n".toList) .readable)])]

def mixedDocument : Document :=
  { title := "c.sh".toList, methods := [{ name := "run".toList, desc := ["Say".toList], line := 3 }] }

theorem mixed_there : mixedVolume.isDirectory (mixedVolume.absolute "s".toList) = true :=
  rfl

theorem mixed_found : (discover mixedVolume "s".toList scriptExtensions).1 =
    ["/s/a.sh".toList, "/s/b.sh".toList, "/s/c.sh".toList] := by
  refine discover_eq_of_perm rfl ?_ (by decide)
  exact List.reverse_perm ["/s/a.sh".toList, "/s/b.sh".toList, "/s/c.sh".toList]

theorem mixed_first : ∃ document, (Loading.parse mixedVolume "/s/a.sh".toList).1 = .ok document ∧
    document.entityCount = 0 := by
  have text : Loading.scriptText mixedVolume "/s/a.sh".toList = .ok "echo\n".toList :=
    Loading.Legible.scriptText ⟨rfl, by decide⟩
  rw [Loading.parse, text]
  exact ⟨_, rfl, by decide +kernel⟩

theorem mixed_second : (Loading.parse mixedVolume "/s/b.sh".toList).1 = .error (.empty "/s/b.sh".toList) := by
  have text : Loading.scriptText mixedVolume "/s/b.sh".toList = .error (.empty "/s/b.sh".toList) :=
    rfl
  rw [Loading.parse, text]

theorem mixed_third : (Loading.parse mixedVolume "/s/c.sh".toList).1 = .ok mixedDocument := by
  have text : Loading.scriptText mixedVolume "/s/c.sh".toList = .ok "#!/bin/sh\n# Say\nrun() (\n".toList :=
    Loading.Legible.scriptText ⟨rfl, by decide⟩
  have read : (Extraction.extract (Path.baseName "/s/c.sh".toList)
      "#!/bin/sh\n# Say\nrun() (\n".toList).1 = mixedDocument := by
    decide +kernel
  rw [Loading.parse, text, ← read]

theorem mixed_documents : ["/s/a.sh".toList, "/s/b.sh".toList, "/s/c.sh".toList].filterMap (fun path =>
    (Loading.parse mixedVolume path).1.toOption.filter (fun document => 0 < document.entityCount)) =
      [mixedDocument] := by
  obtain ⟨document, first, empty⟩ := mixed_first
  simp only [List.filterMap_cons, first, mixed_second, mixed_third, Except.toOption, Option.filter, empty]
  rfl

theorem mixed_failures :
    ["/s/a.sh".toList, "/s/b.sh".toList, "/s/c.sh".toList].map (failure? mixedVolume) =
      [none, some (.empty "/s/b.sh".toList), none] := by
  obtain ⟨document, first, _⟩ := mixed_first
  simp only [List.map_cons, List.map_nil, failure?, first, mixed_second, mixed_third]

end Mixed

theorem parseDirectory_tally_mixed :
    (∃ stats : Stats, (parseDirectory mixedVolume "s".toList true scriptExtensions).1 =
        .ok ([mixedDocument], stats) ∧
      stats = { filesProcessed := 2, filesFailed := 1, filesUndocumented := 1, entitiesExtracted := 1 }) ∧
    (parseDirectory mixedVolume "s".toList false scriptExtensions).1 =
      .error (.script (.empty "/s/b.sh".toList)) := by
  obtain ⟨documents, stats, parsed, accounts, stops, _⟩ := parseDirectory_tally mixed_there scriptExtensions
  obtain ⟨kept, failed, processed, undocumented, entities⟩ := accounts
  rw [mixed_found] at kept failed processed stops
  have failures := mixed_failures
  simp only [List.map_cons, List.map_nil, List.cons.injEq, and_true] at failures
  rw [mixed_documents] at kept
  subst kept
  refine ⟨⟨stats, parsed, ?_⟩, stops _ ?_⟩
  · have failedOne : stats.filesFailed = 1 := by
      rw [failed]
      simp only [List.countP_cons, failures]
      rfl
    have entitiesOne : stats.entitiesExtracted = 1 := entities
    obtain ⟨filesProcessed, filesFailed, filesUndocumented, entitiesExtracted⟩ := stats
    simp only [List.length_cons, List.length_nil] at processed undocumented failedOne entitiesOne
    simp only [Stats.mk.injEq]
    omega
  · simp only [List.findSome?_cons, failures]

/-! ### A directory that its absolute path does not lead to -/

/-- Scripts beside the directory that a link leads to. -/
def besideVolume : Volume where
  root := .directory
    [("t".toList, .directory
      [("u".toList, .directory []),
       ("x".toList, .directory
        [("a.sh".toList, .file (Utf8.encode "#!/bin/sh\n# Say\nrun() (\n".toList) .readable)])]),
     ("l".toList, .link "t/u".toList)]

/-- A path through a link and back leads to a directory, in which no script is found and over which no run
is possible. -/
theorem parseDirectory_beside_link :
    besideVolume.isDirectory "l/../x".toList = true ∧
      (discover besideVolume "l/../x".toList scriptExtensions).1 = [] ∧
      (parseDirectory besideVolume "l/../x".toList true scriptExtensions).1 =
        .error (.notFound "/x".toList) := by
  have lost : besideVolume.resolve true (besideVolume.absolute "l/../x".toList) =
      .ok (.vacant ["x".toList] false) := rfl
  refine ⟨rfl, ?_, rfl⟩
  rw [discover, lost]
  exact List.mergeSort_nil

end ScriptDocs.CommandLine
