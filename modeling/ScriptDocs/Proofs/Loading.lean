import ScriptDocs.Loading
import ScriptDocs.Proofs.Text.Utf8

namespace ScriptDocs.Loading

/-!
Loading comes to exactly one of two ends. The script is read if its path leads to a regular file that
can be opened, is not empty and holds the bytes of a text, and there is only one such text; in every
other state of the volume one error says which of these is the first to fail. The journal has the script
for all that is logged on the way and is afterwards what it was.
-/

open FileTree (Volume)

variable {volume : Volume} {path : Text}

theorem map_eq_error_iff {α β : Type} {outcome : Except LoadError α} {change : α → β}
    {error : LoadError} : outcome.map change = .error error ↔ outcome = .error error := by
  cases outcome with
  | error other => simp [Except.map]
  | ok value => simp [Except.map]

/-- A text whose bytes are what the path leads to. -/
def Legible (volume : Volume) (path text : Text) : Prop :=
  volume.entry? path = some (.file (Utf8.encode text) .readable) ∧ Utf8.encode text ≠ []

/-- The reasons for which a script is not read. Each presumes that none before it holds. -/
inductive Refused (volume : Volume) (path : Text) : LoadError → Prop
  | missing (absent : volume.entry? path = none) : Refused volume path (.missing path)
  | notRegular {entry : FileTree.Entry} (found : volume.entry? path = some entry)
      (other : entry.isFile = false) : Refused volume path (.notRegular path)
  | notReadable {content : List UInt8} (found : volume.entry? path = some (.file content .unreadable)) :
      Refused volume path (.notReadable path)
  | failed {content : List UInt8} (found : volume.entry? path = some (.file content .failing)) :
      Refused volume path (.failed (.system .inputOutput path))
  | empty (found : volume.entry? path = some (.file [] .readable)) : Refused volume path (.empty path)
  | notUtf8 {content : List UInt8} {fault : Utf8.Fault}
      (found : volume.entry? path = some (.file content .readable)) (filled : content ≠ [])
      (foreign : ∀ text, Utf8.encode text ≠ content) (decoded : Utf8.decode content = .error fault) :
      Refused volume path (.notUtf8 path fault)

theorem Legible.unique {text other : Text} (legible : Legible volume path text)
    (second : Legible volume path other) : text = other := by
  have same : Utf8.encode text = Utf8.encode other := by
    have entries := legible.1.symm.trans second.1
    simpa using entries
  have decoded := Utf8.decode_encode text
  rw [same, Utf8.decode_encode] at decoded
  exact (Except.ok.inj decoded).symm

theorem Legible.scriptText {text : Text} (legible : Legible volume path text) :
    scriptText volume path = .ok text := by
  obtain ⟨found, filled⟩ := legible
  have occupied : (Utf8.encode text).isEmpty = false := List.isEmpty_eq_false_iff.mpr filled
  rw [Loading.scriptText, found]
  simp only [occupied, Utf8.decode_encode]
  rfl

theorem Refused.scriptText {error : LoadError} (refused : Refused volume path error) :
    scriptText volume path = .error error := by
  cases refused with
  | missing absent => rw [Loading.scriptText, absent]
  | notRegular found other =>
      rename_i entry
      cases entry with
      | file content access => cases other
      | directory children => rw [Loading.scriptText, found]
      | link target => rw [Loading.scriptText, found]
      | pipe => rw [Loading.scriptText, found]
  | notReadable found => rw [Loading.scriptText, found]
  | failed found => rw [Loading.scriptText, found]
  | empty found =>
      rw [Loading.scriptText, found]
      rfl
  | @notUtf8 content fault found filled foreign decoded =>
      have occupied : content.isEmpty = false := List.isEmpty_eq_false_iff.mpr filled
      rw [Loading.scriptText, found]
      simp only [occupied, decoded]
      rfl

theorem Legible.not_refused {text : Text} {error : LoadError} (legible : Legible volume path text) :
    ¬ Refused volume path error := by
  intro refused
  have both := legible.scriptText.symm.trans refused.scriptText
  cases both

/-- The states of a volume, told apart in the order in which they are looked at. -/
theorem legible_or_refused (volume : Volume) (path : Text) :
    (∃ text, Legible volume path text) ∨ ∃ error, Refused volume path error := by
  cases found : volume.entry? path with
  | none => exact .inr ⟨_, .missing found⟩
  | some entry =>
      cases entry with
      | directory children => exact .inr ⟨_, .notRegular found rfl⟩
      | link target => exact .inr ⟨_, .notRegular found rfl⟩
      | pipe => exact .inr ⟨_, .notRegular found rfl⟩
      | file content access =>
          cases access with
          | unreadable => exact .inr ⟨_, .notReadable found⟩
          | failing => exact .inr ⟨_, .failed found⟩
          | readable =>
              by_cases filled : content = []
              · exact .inr ⟨_, .empty (filled ▸ found)⟩
              · cases decoded : Utf8.decode content with
                | ok text =>
                    have written : Utf8.encode text = content := Utf8.decode_eq_ok_iff.mp decoded
                    exact .inl ⟨text, written ▸ found, written ▸ filled⟩
                | error fault =>
                    refine .inr ⟨_, .notUtf8 found filled ?_ decoded⟩
                    intro text written
                    rw [Utf8.decode_eq_ok_iff.mpr written] at decoded
                    cases decoded

theorem scriptText_eq_ok_iff {text : Text} :
    scriptText volume path = .ok text ↔ Legible volume path text := by
  refine ⟨?_, Legible.scriptText⟩
  intro loaded
  rcases legible_or_refused volume path with ⟨other, legible⟩ | ⟨error, refused⟩
  · rw [legible.scriptText] at loaded
    exact Except.ok.inj loaded ▸ legible
  · rw [refused.scriptText] at loaded
    cases loaded

theorem scriptText_eq_error_iff {error : LoadError} :
    scriptText volume path = .error error ↔ Refused volume path error := by
  refine ⟨?_, Refused.scriptText⟩
  intro failed
  rcases legible_or_refused volume path with ⟨text, legible⟩ | ⟨other, refused⟩
  · rw [legible.scriptText] at failed
    cases failed
  · rw [refused.scriptText] at failed
    exact Except.error.inj failed ▸ refused

/-- The end that loading comes to is settled with the text. -/
theorem parse_fst (volume : Volume) (path : Text) :
    (parse volume path).1 =
      (scriptText volume path).map (fun text => (Extraction.extract (Path.baseName path) text).1) := by
  rw [parse]
  cases scriptText volume path with
  | error error => rfl
  | ok text => rfl

theorem parse_eq_ok_iff {document : Document} : (parse volume path).1 = .ok document ↔
    ∃ text, Legible volume path text ∧
      document = (Extraction.extract (Path.baseName path) text).1 := by
  rw [parse_fst]
  constructor
  · intro read
    cases loaded : scriptText volume path with
    | error error =>
        rw [loaded] at read
        cases read
    | ok text =>
        rw [loaded] at read
        exact ⟨text, scriptText_eq_ok_iff.mp loaded, (Except.ok.inj read).symm⟩
  · rintro ⟨text, legible, rfl⟩
    rw [legible.scriptText]
    rfl

theorem parse_eq_error_iff {error : LoadError} :
    (parse volume path).1 = .error error ↔ Refused volume path error := by
  rw [parse_fst, map_eq_error_iff, scriptText_eq_error_iff]

theorem script_of_mem_parse {record : Log.Record} (logged : record ∈ (parse volume path).2) :
    record.script = path := by
  rw [parse] at logged
  cases loaded : scriptText volume path with
  | error error =>
      rw [loaded] at logged
      rw [List.mem_singleton.mp logged]
      rfl
  | ok text =>
      rw [loaded] at logged
      rcases List.mem_append.mp logged with noted | summary
      · obtain ⟨note, -, rfl⟩ := List.mem_map.mp noted
        rfl
      · rw [List.mem_singleton.mp summary]
        rfl

theorem parseWithin_eq (journal : Log.Journal) (volume : Volume) (path : Text) :
    parseWithin journal volume path = (parse volume path, journal) := by
  have stamped : (parse volume path).2.map (Log.Record.within path) = (parse volume path).2 := by
    conv => rhs; rw [← List.map_id (parse volume path).2]
    apply List.map_congr_left
    intro record logged
    rw [Log.Record.within, ← script_of_mem_parse logged]
    rfl
  change (((parse volume path).1, (parse volume path).2.map (Log.Record.within path)),
    (journal.enter path).leave) = _
  rw [stamped]
  rfl

theorem parseFile_fst (volume : Volume) (path title : Text) :
    (parseFile volume path title).1 = (parse volume path).1.map (fun document =>
      if title = [] then document else { document with title }) := by
  simp [parseFile, List.isEmpty_iff, Document.withTitle]

/-- For every state of the volume, whatever was being processed before: either the script is read, as
the one text that it can be, or one of the errors is given, and never both. What is logged has the script
for its context and the journal afterwards has the context of before. Asking for the document under a
title fails with that error, or gives that document with at most its title changed. -/
theorem parse_settles (journal : Log.Journal) (volume : Volume) (path : Text) :
    (∀ document, (parse volume path).1 = .ok document ↔
      ∃ text, Legible volume path text ∧ (∀ other, Legible volume path other → other = text) ∧
        document = (Extraction.extract (Path.baseName path) text).1) ∧
    (∀ error, (parse volume path).1 = .error error ↔ Refused volume path error) ∧
    ((∃ text, Legible volume path text) ↔ ∀ error, ¬ Refused volume path error) ∧
    (parseWithin journal volume path).1 = parse volume path ∧
    (∀ record ∈ (parseWithin journal volume path).1.2, record.script = path) ∧
    (parseWithin journal volume path).2 = journal ∧
    ∀ title,
      (∀ error, (parseFile volume path title).1 = .error error ↔
        (parse volume path).1 = .error error) ∧
      (∀ document, (parse volume path).1 = .ok document →
        (parseFile volume path title).1 =
          .ok (if title = [] then document else { document with title })) := by
  refine ⟨?_, fun error => parse_eq_error_iff, ?_, ?_, ?_, ?_, ?_⟩
  · intro document
    rw [parse_eq_ok_iff]
    constructor
    · rintro ⟨text, legible, found⟩
      exact ⟨text, legible, fun other second => second.unique legible, found⟩
    · rintro ⟨text, legible, -, found⟩
      exact ⟨text, legible, found⟩
  · constructor
    · rintro ⟨text, legible⟩ error refused
      exact legible.not_refused refused
    · intro accepted
      rcases legible_or_refused volume path with legible | ⟨error, refused⟩
      · exact legible
      · exact absurd refused (accepted error)
  · rw [parseWithin_eq]
  · rw [parseWithin_eq]
    intro record logged
    exact script_of_mem_parse logged
  · rw [parseWithin_eq]
  · intro title
    rw [parseFile_fst]
    refine ⟨fun error => map_eq_error_iff, ?_⟩
    intro document found
    rw [found]
    rfl

end ScriptDocs.Loading
