import ScriptDocs.Proofs.Text.Utf8
import ScriptDocs.Settings.Loading

/-!
Strict and lenient loading agree. Each part of the loading is the same process in both modes up to the
first problem: strict mode ends there with the problem that lenient mode warns about first, and where
lenient mode warns about nothing the two give the same. Nothing is assumed of the readers of the formats.
-/

namespace ScriptDocs.Settings

namespace Attempt

variable {α β : Type}

/-- The attempt with its first tolerated problem tolerated no more. -/
def firm (attempt : Attempt α) : Attempt α :=
  match attempt.tolerated with
  | [] => attempt
  | problem :: _ => stop (.problem problem)

/-- A strict attempt that ends at the first problem of a lenient one, which never ends with a problem. -/
structure InStep (strict lenient : Attempt α) : Prop where
  firm : strict = lenient.firm
  mild : ∀ problem, lenient.outcome ≠ .error (.problem problem)

theorem inStep_done (result : α) : InStep (done result) (done result) :=
  ⟨rfl, by simp [done]⟩

theorem inStep_stop {error : LoadError} (other : ∀ problem, error ≠ .problem problem) :
    InStep (stop error : Attempt α) (stop error) :=
  ⟨rfl, by simpa [stop] using other⟩

theorem inStep_fail (problem : Problem) (otherwise : α) :
    InStep (fail true problem otherwise) (fail false problem otherwise) :=
  ⟨rfl, by simp [fail]⟩

theorem firm_andThen (first : Attempt α) (next : α → Attempt β) :
    (first.andThen next).firm = first.firm.andThen (fun result => (next result).firm) := by
  obtain ⟨tolerated, outcome⟩ := first
  cases tolerated with
  | cons problem rest => cases outcome <;> rfl
  | nil =>
      cases outcome with
      | error error => rfl
      | ok result =>
          cases second : next result with
          | mk later last => cases later <;> simp [andThen, firm, stop, second]

theorem InStep.andThen {strict lenient : Attempt α} {strictNext lenientNext : α → Attempt β}
    (first : InStep strict lenient) (next : ∀ result, InStep (strictNext result) (lenientNext result)) :
    InStep (strict.andThen strictNext) (lenient.andThen lenientNext) := by
  constructor
  · have same : strictNext = fun result => (lenientNext result).firm := funext fun result => (next result).firm
    rw [firm_andThen, first.firm, same]
  · intro problem
    have firstMild := first.mild problem
    rw [Attempt.andThen]
    cases ended : lenient.outcome with
    | error error => simpa [ended] using firstMild
    | ok result => exact (next result).mild problem

end Attempt

open Attempt

theorem inStep_withTree {α : Type} {pool : Pool} {item : Item} {strict lenient : Value → Attempt α}
    (next : ∀ value, InStep (strict value) (lenient value)) :
    InStep (withTree pool item strict) (withTree pool item lenient) := by
  unfold withTree
  cases pool.tree? item with
  | none => exact inStep_stop (by simp)
  | some value =>
      dsimp only
      split
      · exact inStep_stop (by simp)
      · exact next value

theorem inStep_setField (pool : Pool) (settings : Settings) (field : Field) (item : Item) :
    InStep (setField true pool settings field item) (setField false pool settings field item) := by
  cases field with
  | logLevel =>
      apply inStep_withTree
      intro value
      dsimp only
      split
      · exact inStep_done _
      · exact inStep_fail _ _
  | outputDirectory =>
      apply inStep_withTree
      intro value
      exact inStep_done _
  | jsonIndent =>
      unfold setField
      dsimp only
      split
      · exact inStep_done _
      · apply inStep_withTree
        intro value
        exact inStep_fail _ _
  | scriptExtensions =>
      unfold setField
      dsimp only
      split
      · exact inStep_done _
      · exact inStep_fail _ _

theorem inStep_setEntry (pool : Pool) (settings : Settings) (key item : Item) :
    InStep (setEntry true pool settings key item) (setEntry false pool settings key item) := by
  unfold setEntry
  cases Field.ofKey? key with
  | some field => exact inStep_setField pool settings field item
  | none =>
      apply inStep_withTree
      intro value
      exact inStep_fail _ _

theorem inStep_setEntries (pool : Pool) (settings : Settings) (entries : Entries) :
    InStep (setEntries true pool settings entries) (setEntries false pool settings entries) := by
  induction entries generalizing settings with
  | nil => exact inStep_done settings
  | cons entry rest ih =>
      apply (inStep_setEntry pool settings entry.1 entry.2).andThen
      intro after
      exact ih after

theorem inStep_payloadOf (content : Content) : InStep (payloadOf true content) (payloadOf false content) := by
  unfold payloadOf
  dsimp only
  split
  · exact inStep_done _
  · split
    · exact inStep_done _
    · exact inStep_fail _ _
  · exact inStep_fail _ _

theorem inStep_readPayload (decoders : Decoders) (volume : FileTree.Volume) (path : Text) :
    InStep (readPayload decoders volume true path) (readPayload decoders volume false path) := by
  unfold readPayload
  dsimp only
  split
  · exact inStep_stop (by simp)
  · exact inStep_stop (by simp)
  · exact inStep_fail _ _
  · exact inStep_fail _ _
  · split
    · exact inStep_stop (by simp)
    · unfold decodePayload
      split
      · exact inStep_payloadOf _
      · exact inStep_fail _ _
      · exact inStep_stop (by simp)

theorem inStep_resolve (decoders : Decoders) (volume : FileTree.Volume) (environment : Environment)
    (path : Text) :
    InStep (resolve decoders volume environment path true)
      (resolve decoders volume environment path false) := by
  unfold resolve
  apply InStep.andThen
  · split
    · exact inStep_done _
    · exact inStep_readPayload decoders volume path
  · intro payload
    exact inStep_setEntries _ _ _

/-- What loading settings returns and logs. -/
abbrev Loaded := Except LoadError Settings × List Log.Record

namespace Loaded

/-- The warnings among the records of a loading. -/
def warnings (loaded : Loaded) : List Log.Record :=
  loaded.2.filter (fun record => record.level == Log.warning)

/-- A loading with the record of its settings, which cannot show an overlong indent. -/
def shown : Loaded → Loaded
  | (.error error, records) => (.error error, records)
  | (.ok settings, records) =>
      if (Atom.int settings.jsonIndent).isOverlong then (.ok settings, records)
      else (.ok settings, records ++ [resolvedRecord settings])

theorem warnings_tolerated (outcome : Except LoadError Settings) (tolerated : List Problem) :
    warnings (outcome, tolerated.map warning) = tolerated.map warning := by
  apply List.filter_eq_self.mpr
  intro record member
  obtain ⟨problem, _, rfl⟩ := List.mem_map.mp member
  rfl

theorem warnings_shown (loaded : Loaded) : loaded.shown.warnings = loaded.warnings := by
  obtain ⟨outcome, records⟩ := loaded
  cases outcome with
  | error error => rfl
  | ok settings =>
      rw [shown]
      split
      · rfl
      · simp [warnings, resolvedRecord, Log.debug, Log.warning]

theorem shown_outcome (loaded : Loaded) : loaded.shown.1 = loaded.1 := by
  obtain ⟨outcome, records⟩ := loaded
  cases outcome with
  | error error => rfl
  | ok settings =>
      rw [shown]
      split <;> rfl

end Loaded

/-- How a lenient and a strict loading of the same settings go together. -/
structure ModesAgree (lenient strict : Loaded) : Prop where
  unwarned : lenient.warnings = [] → strict.1 = lenient.1
  warned : ∀ first rest, lenient.warnings = first :: rest →
    ∃ problem, strict.1 = .error (.problem problem) ∧
      first.message = problem.message ++ "; continuing with defaults".toList
  accepted : ∀ settings, strict.1 = .ok settings → lenient.1 = .ok settings ∧ lenient.warnings = []
  tolerant : ∀ problem, lenient.1 ≠ .error (.problem problem)

namespace ModesAgree

variable {lenient strict : Loaded}

theorem of_warnings (unwarned : lenient.warnings = [] → strict.1 = lenient.1)
    (warned : ∀ first rest, lenient.warnings = first :: rest →
      ∃ problem, strict.1 = .error (.problem problem) ∧
        first.message = problem.message ++ "; continuing with defaults".toList)
    (tolerant : ∀ problem, lenient.1 ≠ .error (.problem problem)) : ModesAgree lenient strict := by
  refine ⟨unwarned, warned, ?_, tolerant⟩
  intro settings returned
  cases heard : lenient.warnings with
  | nil => exact ⟨(unwarned heard).symm.trans returned, rfl⟩
  | cons first rest =>
      obtain ⟨problem, raised, _⟩ := warned first rest heard
      rw [raised] at returned
      contradiction

theorem of_inStep {strict lenient : Attempt Settings} (inStep : InStep strict lenient) :
    ModesAgree (lenient.outcome, lenient.tolerated.map warning)
      (strict.outcome, strict.tolerated.map warning) := by
  have heard := Loaded.warnings_tolerated lenient.outcome lenient.tolerated
  obtain ⟨rfl, mild⟩ := inStep
  apply of_warnings _ _ mild
  · intro silent
    rw [heard, List.map_eq_nil_iff] at silent
    simp [Attempt.firm, silent]
  · intro first rest warned
    rw [heard] at warned
    obtain ⟨problem, others, split, rfl, _⟩ := List.map_eq_cons_iff.mp warned
    refine ⟨problem, ?_, rfl⟩
    simp [Attempt.firm, split, stop]

theorem shown (agree : ModesAgree lenient strict) : ModesAgree lenient.shown strict.shown where
  unwarned := by simpa only [Loaded.shown_outcome, Loaded.warnings_shown] using agree.unwarned
  warned := by simpa only [Loaded.shown_outcome, Loaded.warnings_shown] using agree.warned
  accepted := by simpa only [Loaded.shown_outcome, Loaded.warnings_shown] using agree.accepted
  tolerant := by simpa only [Loaded.shown_outcome] using agree.tolerant

end ModesAgree

theorem loadWith_eq_shown (decoders : Decoders) (volume : FileTree.Volume) (environment : Environment)
    (path : Text) (strict : Option Bool) :
    loadWith decoders volume environment path strict =
      Loaded.shown (loadQuietlyWith decoders volume environment path strict) := by
  rw [loadWith]
  rcases loadQuietlyWith decoders volume environment path strict with ⟨outcome, records⟩
  cases outcome <;> rfl

/-- Lenient loading never ends with a problem. If it warns about nothing, strict loading ends in the same
way, with the same settings or with an error that is no problem; if it warns, strict loading ends with the
problem of the first warning; and settings that strict loading returns are returned without a warning. All
this holds with and without the record of the settings, and for all readers of the formats. -/
theorem load_modesAgree (decoders : Decoders) (volume : FileTree.Volume) (environment : Environment)
    (path : Text) :
    ModesAgree (loadWith decoders volume environment path (some false))
      (loadWith decoders volume environment path (some true)) ∧
    ModesAgree (loadQuietlyWith decoders volume environment path (some false))
      (loadQuietlyWith decoders volume environment path (some true)) := by
  have quiet := ModesAgree.of_inStep (inStep_resolve decoders volume environment path)
  rw [loadWith_eq_shown, loadWith_eq_shown]
  exact ⟨quiet.shown, quiet⟩

/-! ### A settings file with two problems -/

section Loud

/-- A volume that holds only a settings file. -/
def fileVolume (name text : Text) : FileTree.Volume where
  root := .directory [(name, .file (Utf8.encode text) .readable)]

theorem readPayload_fileVolume {name : Text} (known : name = "s.json".toList ∨ name = "s.yml".toList)
    (text : Text) (decoders : Decoders) (strict : Bool) :
    readPayload decoders (fileVolume name text) strict name =
      decodePayload decoders strict name (Text.unifyNewlines text) := by
  have tidy : Path.tidy name = name := by
    rcases known with rfl | rfl <;> decide +kernel
  have read : (fileVolume name text).read name = .ok (Utf8.encode text) := by
    rcases known with rfl | rfl <;> rfl
  rw [readPayload, tidy, read]
  simp only [Utf8.decode_encode]

def loudVolume : FileTree.Volume :=
  fileVolume "s.json".toList
    "\x7b\"json_indent\": 4, \"log_level\": \"loud\", \"depth\": 1\x7d".toList

theorem loud_tolerated : (resolve {} loudVolume {} "s.json".toList false).tolerated =
    [.badLevel "loud".toList, .unknownKey "depth".toList] := by
  rw [resolve, loudVolume, readPayload_fileVolume (.inl rfl)]
  decide +kernel

end Loud

theorem load_modesAgree_loud :
    ∃ first second,
      Loaded.warnings (loadWith {} loudVolume {} "s.json".toList (some false)) = [first, second] ∧
      first.message = "Invalid log_level 'loud'; continuing with defaults".toList ∧
      ∃ problem, (loadWith {} loudVolume {} "s.json".toList (some true)).1 = .error (.problem problem) ∧
        first.message = problem.message ++ "; continuing with defaults".toList := by
  have heard : Loaded.warnings (loadWith {} loudVolume {} "s.json".toList (some false)) =
      [warning (.badLevel "loud".toList), warning (.unknownKey "depth".toList)] := by
    rw [loadWith_eq_shown, Loaded.warnings_shown, loadQuietlyWith]
    simp only [Option.getD_some, loud_tolerated]
    rfl
  have agree := (load_modesAgree {} loudVolume {} "s.json".toList).1
  exact ⟨_, _, heard, by decide +kernel, agree.warned _ _ heard⟩

end ScriptDocs.Settings
