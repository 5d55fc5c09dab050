import ScriptDocs.CommandLine.Run
import ScriptDocs.Proofs.Artifact
import ScriptDocs.Proofs.Batch
import ScriptDocs.Proofs.FileTree.Discovery
import ScriptDocs.Proofs.Loading

/-!
Which documents of a run over a directory are left in files. Documents whose titles give one file name
share a file, which holds the last of them: a run keeps all its documents exactly if their titles give
names of their own.
-/

namespace ScriptDocs.CommandLine

open FileTree
open FileTree.Volume (GrownFrom)

/-- What the file of a document holds. -/
def documentBytes (writeTime : Text) (destination : Destination) (document : Document) : List UInt8 :=
  Utf8.encode (Artifact.text writeTime (some destination.indent) document.toFields)

/-- A document is held at a place: the path of its file leads there, to a file with its text. -/
def HeldAt (volume : Volume) (writeTime : Text) (destination : Destination) (document : Document)
    (place : Place) : Prop :=
  ∃ access, volume.resolve true (Artifact.path document.title destination.directory) =
    .ok (.existing place (.file (documentBytes writeTime destination document) access))

/-- The file of a document is not taken by a link or a pipe. -/
def Plain (volume : Volume) (destination : Destination) (document : Document) : Prop :=
  ∀ place entry,
    volume.resolve false (Artifact.path document.title destination.directory) =
      .ok (.existing place entry) →
    entry.isFile = true ∨ entry.isDirectory = true

/-- A document of the list after which no other has the same file name. -/
def LastNamed (documents : List Document) (document : Document) : Prop :=
  ∃ earlier later, documents = earlier ++ document :: later ∧
    ∀ other ∈ later, Artifact.baseName other.title ≠ Artifact.baseName document.title

section Writing

variable {writeTime : Text} {destination : Destination}

theorem writeDocument_ok_iff {volume after : Volume} {document : Document} {path : Text} :
    writeDocument volume writeTime destination document = (after, .ok path) ↔
      path = Artifact.path document.title destination.directory ∧
      (Artifact.draft Json.nestingLimit writeTime (some destination.indent) document.toFields).2 = none ∧
      ∃ middle, volume.ensureDirectories destination.directory = (middle, .ok ()) ∧
        middle.write (Artifact.path document.title destination.directory)
          (documentBytes writeTime destination document) = .ok after := by
  rw [writeDocument, Artifact.write_ok_iff]
  rfl

variable {there : Place} {left : Nat}

/-- The place of a document's file in the directory at a place. -/
def placeIn (there : Place) (document : Document) : Place :=
  there ++ [Artifact.fileName document.title]

theorem HeldAt.kept {written : List Place} {before after : Volume} {document : Document}
    (held : HeldAt before writeTime destination document (placeIn there document))
    (leads : before.LeadsTo destination.directory there left) (grown : GrownFrom written before after)
    (outside : placeIn there document ∉ written) :
    HeldAt after writeTime destination document (placeIn there document) := by
  obtain ⟨access, resolved⟩ := held
  have found := look_of_at? (walk_existing (Volume.walk_of_resolve resolved))
  have foundAfter := at?_file (grown.tree.kept _ _ outside found)
  exact ⟨access, Volume.resolve_join_existing (Artifact.isName_fileName document.title)
    (Artifact.fileName_unbroken document.title) resolved leads (grown.leadsTo leads) foundAfter (by simp)⟩

/-- Writing a document leaves it in its file and changes no other. -/
theorem writeDocument_holds {ready volume after : Volume} {before : List Place} {document : Document}
    {path : Text} (leads : ready.LeadsTo destination.directory there left)
    (plain : Plain ready destination document)
    (grown : GrownFrom before ready (volume.ensureDirectories destination.directory).1)
    (wrote : writeDocument volume writeTime destination document = (after, .ok path)) :
    GrownFrom [placeIn there document] (volume.ensureDirectories destination.directory).1 after ∧
      HeldAt after writeTime destination document (placeIn there document) := by
  have named := Artifact.isName_fileName document.title
  have unbroken := Artifact.fileName_unbroken document.title
  obtain ⟨_, _, middle, made, written⟩ := writeDocument_ok_iff.mp wrote
  rw [made] at grown ⊢
  have leadsMiddle := grown.leadsTo leads
  obtain ⟨target, resolved⟩ := Volume.resolve_of_write written
  have free : ∀ entry, look middle.root (placeIn there document) = some entry →
      entry.isFile = true ∨ entry.isDirectory = true := by
    intro entry found
    -- What stands there stood there in `ready` already, or was made or written since.
    rcases grown.tree.fresh _ _ found with old | new
    · obtain ⟨whole, here, rfl⟩ := Option.map_eq_some_iff.mp old
      have sort := plain _ whole (Volume.resolve_join_existing named unbroken resolved leadsMiddle
        leads here (by simp))
      cases whole <;> exact sort
    · exact new
  obtain ⟨grownAfter, access, found⟩ :=
    Volume.write_join named unbroken leadsMiddle free written
  refine ⟨grownAfter, access, ?_⟩
  exact Volume.resolve_join_existing named unbroken resolved leadsMiddle
    (grownAfter.leadsTo leadsMiddle) (at?_file found) (by simp)

theorem writeAll_cons_ok_iff {volume : Volume} {document : Document} {rest : List Document} :
    (writeAll volume writeTime destination (document :: rest)).2.2 = .ok () ↔
      ∃ after path, writeDocument volume writeTime destination document = (after, .ok path) ∧
        (writeAll after writeTime destination rest).2.2 = .ok () := by
  rw [writeAll]
  cases writeDocument volume writeTime destination document with
  | mk after outcome => cases outcome <;> simp

theorem writeAll_cons_volume {volume after : Volume} {document : Document} {path : Text}
    (wrote : writeDocument volume writeTime destination document = (after, .ok path))
    (rest : List Document) :
    (writeAll volume writeTime destination (document :: rest)).1 =
      (writeAll after writeTime destination rest).1 := by
  rw [writeAll, wrote]

/-- Writing documents changes only their files, and each file holds the last document that has it. -/
theorem writeAll_holds {ready volume : Volume} {before : List Place} {documents : List Document}
    (leads : ready.LeadsTo destination.directory there left)
    (plain : ∀ document ∈ documents, Plain ready destination document)
    (grown : GrownFrom before ready (volume.ensureDirectories destination.directory).1)
    (succeeded : (writeAll volume writeTime destination documents).2.2 = .ok ()) :
    GrownFrom (documents.map (placeIn there)) volume
        (writeAll volume writeTime destination documents).1 ∧
      ∀ document, LastNamed documents document →
        HeldAt (writeAll volume writeTime destination documents).1 writeTime destination document
          (placeIn there document) := by
  -- Each write starts from another volume; that all of them have grown from `ready` is what carries
  -- the way to the output directory along.
  induction documents generalizing volume before with
  | nil =>
      refine ⟨.refl volume, ?_⟩
      rintro document ⟨earlier, later, split, _⟩
      simp at split
  | cons first rest ih =>
      obtain ⟨after, path, wrote, restSucceeded⟩ := writeAll_cons_ok_iff.mp succeeded
      obtain ⟨grownFirst, held⟩ := writeDocument_holds leads (plain first (by simp)) grown wrote
      have grownReady := grown.trans grownFirst
      obtain ⟨grownRest, lastHeld⟩ := ih (fun document member => plain document (by simp [member]))
        (grownReady.trans (after.ensureDirectories_grown destination.directory)) restSucceeded
      rw [writeAll_cons_volume wrote]
      refine ⟨((volume.ensureDirectories_grown destination.directory).trans grownFirst).trans grownRest, ?_⟩
      rintro document ⟨earlier, later, split, last⟩
      cases earlier with
      | nil =>
          obtain ⟨rfl, rfl⟩ := List.cons.inj split
          refine held.kept (grownReady.leadsTo leads) grownRest ?_
          intro member
          obtain ⟨other, later, equal⟩ := List.mem_map.mp member
          have names := List.cons.inj (List.append_cancel_left equal)
          exact last other later (Artifact.fileName_injective names.1)
      | cons head more =>
          obtain ⟨_, restSplit⟩ := List.cons.inj split
          exact lastHeld document ⟨more, later, restSplit, last⟩

theorem writeAll_lastHeld {volume : Volume} {documents : List Document}
    (succeeded : (writeAll volume writeTime destination documents).2.2 = .ok ())
    (plain : ∀ document ∈ documents,
      Plain (volume.ensureDirectories destination.directory).1 destination document) :
    ∃ there, ∀ document, LastNamed documents document →
      HeldAt (writeAll volume writeTime destination documents).1 writeTime destination document
        (placeIn there document) := by
  cases documents with
  | nil => exact ⟨[], by simp [LastNamed]⟩
  | cons first rest =>
      obtain ⟨after, path, wrote, _⟩ := writeAll_cons_ok_iff.mp succeeded
      obtain ⟨_, _, ready, made, written⟩ := writeDocument_ok_iff.mp wrote
      obtain ⟨target, resolved⟩ := Volume.resolve_of_write written
      obtain ⟨there, left, leads⟩ := Volume.leadsTo_of_resolve
        (Artifact.isName_fileName first.title) (Artifact.fileName_unbroken first.title) resolved
      have grown : GrownFrom [] ready (volume.ensureDirectories destination.directory).1 := by
        rw [made]
        exact .refl ready
      rw [made] at plain
      exact ⟨there, (writeAll_holds leads plain grown succeeded).2⟩

end Writing

/-- Every document is held by a file of its own. -/
def OwnFiles (volume : Volume) (writeTime : Text) (destination : Destination)
    (documents : List Document) : Prop :=
  ∃ place : Fin documents.length → Place, Function.Injective place ∧
    ∀ index, HeldAt volume writeTime destination (documents.get index) (place index)

theorem OwnFiles.distinct {volume : Volume} {writeTime : Text} {destination : Destination}
    {documents : List Document} (own : OwnFiles volume writeTime destination documents) :
    (documents.map fun document => Artifact.baseName document.title).Nodup := by
  obtain ⟨place, injective, held⟩ := own
  rw [List.nodup_iff_pairwise_ne, List.pairwise_map, List.pairwise_iff_getElem]
  intro first second firstWithin secondWithin before same
  obtain ⟨_, firstResolved⟩ := held ⟨first, firstWithin⟩
  obtain ⟨_, secondResolved⟩ := held ⟨second, secondWithin⟩
  have samePath : Artifact.path documents[first].title destination.directory =
      Artifact.path documents[second].title destination.directory := by
    rw [Artifact.path, Artifact.path, same]
  simp only [List.get_eq_getElem, samePath] at firstResolved secondResolved
  have samePlace : place ⟨first, firstWithin⟩ = place ⟨second, secondWithin⟩ := by
    have equal := firstResolved.symm.trans secondResolved
    injection equal with equal
    injection equal with equal _
  have sameIndex : first = second := congrArg Fin.val (injective samePlace)
  omega

theorem ownFiles_of_distinct {volume : Volume} {writeTime : Text} {destination : Destination}
    {documents : List Document} {there : Place}
    (lastHeld : ∀ document, LastNamed documents document →
      HeldAt volume writeTime destination document (placeIn there document))
    (distinct : (documents.map fun document => Artifact.baseName document.title).Nodup) :
    OwnFiles volume writeTime destination documents := by
  rw [List.nodup_iff_pairwise_ne, List.pairwise_map, List.pairwise_iff_getElem] at distinct
  refine ⟨fun index => placeIn there (documents.get index), ?_, ?_⟩
  · intro first second same
    have names := (List.cons.inj (List.append_cancel_left same)).1
    have sameBase := Artifact.fileName_injective names
    rcases Nat.lt_trichotomy first second with before | equal | after
    · exact absurd sameBase (distinct first second first.isLt second.isLt before)
    · exact Fin.ext equal
    · exact absurd sameBase.symm (distinct second first second.isLt first.isLt after)
  · intro index
    refine lastHeld _ ⟨documents.take index, documents.drop (index + 1), by simp, ?_⟩
    intro other later same
    obtain ⟨offset, within, rfl⟩ := List.getElem_of_mem later
    rw [List.length_drop] at within
    rw [List.getElem_drop] at same
    exact distinct index (index + 1 + offset) index.isLt (by omega) (by omega) same.symm

theorem runDirectory_volume {volume : Volume} {writeTime : Text} {destination : Destination}
    {directory : Text} {extensions : List Text} {documents : List Document} {stats : Batch.Stats}
    (parsed : (Batch.parseDirectory volume directory true extensions).1 = .ok (documents, stats)) :
    (runDirectory volume writeTime destination directory extensions).volume =
      (writeAll volume writeTime destination documents).1 := by
  rw [runDirectory]
  cases loaded : Batch.parseDirectory volume directory true extensions with
  | mk outcome records =>
      rw [loaded] at parsed
      subst parsed
      cases written : writeAll volume writeTime destination documents with
      | mk after result =>
          obtain ⟨notes, outcome⟩ := result
          cases outcome with
          | error error => simp only [written]
          | ok done => simp only [written]

/-- When all writes of a run over a directory succeed, each file holds the last document whose title
gives its name, so every document has a file of its own exactly if the titles give different names. -/
theorem runDirectory_ownFiles_iff {volume : Volume} {writeTime : Text} {destination : Destination}
    {directory : Text} {extensions : List Text} {documents : List Document} {stats : Batch.Stats}
    (parsed : (Batch.parseDirectory volume directory true extensions).1 = .ok (documents, stats))
    (succeeded : (writeAll volume writeTime destination documents).2.2 = .ok ())
    (plain : ∀ document ∈ documents,
      Plain (volume.ensureDirectories destination.directory).1 destination document) :
    (∀ document, LastNamed documents document →
      ∃ place, HeldAt (runDirectory volume writeTime destination directory extensions).volume
        writeTime destination document place) ∧
    (OwnFiles (runDirectory volume writeTime destination directory extensions).volume writeTime
        destination documents ↔
      (documents.map fun document => Artifact.baseName document.title).Nodup) := by
  rw [runDirectory_volume parsed]
  obtain ⟨there, lastHeld⟩ := writeAll_lastHeld succeeded plain
  refine ⟨?_, OwnFiles.distinct, ownFiles_of_distinct lastHeld⟩
  intro document last
  exact ⟨_, lastHeld document last⟩

/-! ### Two scripts in directories of their own -/

section Pair

def runText (words : Text) : Text :=
  "#!/bin/sh\n# ".toList ++ words ++ "\nrun() (\n".toList

def runBytes (words : Text) : List UInt8 :=
  Utf8.encode (runText words)

def runDocument (title words : Text) : Document :=
  { title, methods := [{ name := "run".toList, desc := [words], line := 3 }] }

/-- A script `x.sh` and another with a name of its own, beside other entries. -/
def pairVolume (second : Text) (others : List (Text × Entry)) : Volume where
  root := .directory (("s".toList, .directory
    [("a".toList, .directory [("x.sh".toList, .file (runBytes "One".toList) .readable)]),
     ("b".toList, .directory [(second, .file (runBytes "Two".toList) .readable)])]) :: others)

def pairDocuments (second : Text) : List Document :=
  [runDocument "x.sh".toList "One".toList, runDocument second "Two".toList]

def pairDestination : Destination where
  directory := "o".toList
  indent := 2

/-- The volume of a run over the two scripts once the output directory holds some files. -/
def pairWritten (second : Text) (files : List (Text × Entry)) : Volume :=
  pairVolume second [("o".toList, .directory files)]

variable {second : Text}

theorem pair_ready : (pairVolume second []).ensureDirectories "o".toList = (pairWritten second [], .ok ()) :=
  rfl

theorem numbered_runDocument (title words : Text) : (runDocument title words).Numbered := by
  have short := Json.digit_short (show 3 < 10 by decide)
  refine ⟨?_, ?_, ?_, ?_⟩ <;> simp [runDocument, short]

theorem draft_runDocument (writeTime title words : Text) :
    (Artifact.draft Json.nestingLimit writeTime (some pairDestination.indent)
      (runDocument title words).toFields).2 = none := by
  have shallow := Nat.le_trans (runDocument title words).depth_toFields_le
    (show 5 ≤ Json.nestingLimit by decide)
  refine (Artifact.whole_draft_iff (numbered_runDocument title words).exact_toFields shallow _ _).mpr ?_
  simp [pairDestination]

variable (known : second = "x.sh".toList ∨ second = "y.sh".toList)

include known

theorem pair_parsed :
    ∃ stats, (Batch.parseDirectory (pairVolume second []) "s".toList true scriptExtensions).1 =
      .ok (pairDocuments second, stats) := by
  have there : (pairVolume second []).isDirectory ((pairVolume second []).absolute "s".toList) = true :=
    rfl
  have found : (discover (pairVolume second []) "s".toList scriptExtensions).1 =
      ["/s/a/x.sh".toList, "/s/b/".toList ++ second] := by
    rcases known with rfl | rfl <;> exact discover_eq_of_perm rfl (List.Perm.refl _) (by decide)
  have firstText : Loading.scriptText (pairVolume second []) "/s/a/x.sh".toList =
      .ok (runText "One".toList) :=
    Loading.Legible.scriptText ⟨rfl, by decide⟩
  have secondText : Loading.scriptText (pairVolume second []) ("/s/b/".toList ++ second) =
      .ok (runText "Two".toList) := by
    rcases known with rfl | rfl <;> exact Loading.Legible.scriptText ⟨rfl, by decide⟩
  have first : (Extraction.extract (Path.baseName "/s/a/x.sh".toList) (runText "One".toList)).1 =
      runDocument "x.sh".toList "One".toList := by
    decide +kernel
  have other : (Extraction.extract (Path.baseName ("/s/b/".toList ++ second)) (runText "Two".toList)).1 =
      runDocument second "Two".toList := by
    rcases known with rfl | rfl <;> decide +kernel
  obtain ⟨documents, stats, parsed, accounts⟩ := Batch.parseDirectory_accounts there scriptExtensions
  have kept := accounts.kept
  rw [found] at kept
  simp only [List.filterMap_cons, Loading.parse, firstText, secondText, first, other, Except.toOption,
    Option.filter, List.filterMap_nil] at kept
  subst kept
  exact ⟨stats, parsed⟩

theorem pair_succeeded (writeTime : Text) :
    (writeAll (pairVolume second []) writeTime pairDestination (pairDocuments second)).2.2 = .ok () := by
  have first : ∀ content, (pairWritten second []).write (Artifact.path "x.sh".toList "o".toList) content =
      .ok (pairWritten second [("x.sh.json".toList, .file content .readable)]) := by
    intro content
    rfl
  have made : ∀ content, (pairWritten second [("x.sh.json".toList, .file content .readable)]).ensureDirectories
      "o".toList = (pairWritten second [("x.sh.json".toList, .file content .readable)], .ok ()) := by
    intro content
    rfl
  have other : ∀ old content, ∃ files, (pairWritten second [("x.sh.json".toList, .file old .readable)]).write
      (Artifact.path second "o".toList) content = .ok (pairWritten second files) := by
    intro old content
    rcases known with rfl | rfl
    · exact ⟨[("x.sh.json".toList, .file content .readable)], rfl⟩
    · exact ⟨[("x.sh.json".toList, .file old .readable), ("y.sh.json".toList, .file content .readable)],
        rfl⟩
  obtain ⟨files, wrote⟩ :=
    other (documentBytes writeTime pairDestination (runDocument "x.sh".toList "One".toList))
      (documentBytes writeTime pairDestination (runDocument second "Two".toList))
  have wroteFirst := writeDocument_ok_iff.mpr ⟨rfl, draft_runDocument writeTime "x.sh".toList "One".toList,
    _, pair_ready, first (documentBytes writeTime pairDestination _)⟩
  have wroteOther := writeDocument_ok_iff.mpr ⟨rfl, draft_runDocument writeTime second "Two".toList,
    _, made _, wrote⟩
  rw [pairDocuments, writeAll_cons_ok_iff]
  refine ⟨_, _, wroteFirst, ?_⟩
  rw [writeAll_cons_ok_iff]
  exact ⟨_, _, wroteOther, rfl⟩

theorem pair_plain : ∀ document ∈ pairDocuments second,
    Plain ((pairVolume second []).ensureDirectories pairDestination.directory).1 pairDestination document := by
  have first : (pairWritten second []).resolve false (Artifact.path "x.sh".toList "o".toList) =
      .ok (.vacant ["o".toList, "x.sh.json".toList] false) :=
    rfl
  have other : (pairWritten second []).resolve false (Artifact.path second "o".toList) =
      .ok (.vacant ["o".toList, second ++ ".json".toList] false) := by
    rcases known with rfl | rfl <;> rfl
  have ready : ((pairVolume second []).ensureDirectories pairDestination.directory).1 =
      pairWritten second [] := congrArg Prod.fst pair_ready
  rw [ready]
  intro document member place entry resolved
  rcases List.mem_cons.mp member with rfl | rest
  · exact absurd (first.symm.trans resolved) (by simp)
  · obtain rfl := List.mem_singleton.mp rest
    exact absurd (other.symm.trans resolved) (by simp)

end Pair

theorem runDirectory_ownFiles_pair :
    (∃ stats, (Batch.parseDirectory (pairVolume "y.sh".toList []) "s".toList true
      scriptExtensions).1 = .ok (pairDocuments "y.sh".toList, stats)) ∧
    (writeAll (pairVolume "y.sh".toList []) [] pairDestination (pairDocuments "y.sh".toList)).2.2 = .ok () ∧
    (∀ document ∈ pairDocuments "y.sh".toList,
      Plain ((pairVolume "y.sh".toList []).ensureDirectories pairDestination.directory).1
        pairDestination document) ∧
    OwnFiles (runDirectory (pairVolume "y.sh".toList []) [] pairDestination "s".toList
      scriptExtensions).volume [] pairDestination (pairDocuments "y.sh".toList) := by
  have known : "y.sh".toList = "x.sh".toList ∨ "y.sh".toList = "y.sh".toList := .inr rfl
  obtain ⟨stats, parsed⟩ := pair_parsed known
  refine ⟨⟨stats, parsed⟩, pair_succeeded known [], pair_plain known, ?_⟩
  exact (runDirectory_ownFiles_iff parsed (pair_succeeded known []) (pair_plain known)).2.mpr (by decide +kernel)

/-- Two scripts of one name in different directories are written to one file. -/
theorem runDirectory_shares_file :
    (∃ stats, (Batch.parseDirectory (pairVolume "x.sh".toList []) "s".toList true
      scriptExtensions).1 = .ok (pairDocuments "x.sh".toList, stats)) ∧
    (writeAll (pairVolume "x.sh".toList []) [] pairDestination (pairDocuments "x.sh".toList)).2.2 = .ok () ∧
    ¬ OwnFiles (runDirectory (pairVolume "x.sh".toList []) [] pairDestination "s".toList
      scriptExtensions).volume [] pairDestination (pairDocuments "x.sh".toList) := by
  have known : "x.sh".toList = "x.sh".toList ∨ "x.sh".toList = "y.sh".toList := .inl rfl
  refine ⟨pair_parsed known, pair_succeeded known [], ?_⟩
  intro own
  exact absurd own.distinct (by decide +kernel)

end ScriptDocs.CommandLine
