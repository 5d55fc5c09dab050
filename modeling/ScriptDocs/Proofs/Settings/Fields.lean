import Mathlib.Data.List.TakeWhile
import ScriptDocs.Proofs.Settings.Mapping

/-!
Settings are resolved field by field. Each field is found from the entry under its own key and from its
own variable of the environment, whatever else the mapping holds and in whatever order; only an output
directory that holds the mapping itself shows what else is in there.
-/

namespace ScriptDocs.Settings

/-! ### Taking in one value -/

/-- The level that a text names. -/
def level? (text : Text) : Option Text :=
  let level := Text.capitals (Text.trimBlank text)
  if levels.contains level then some level else none

/-- Whether a value can be taken for a field. -/
def Field.fits : Field → Value → Bool
  | .logLevel, value => (level? value.plainText).isSome
  | .outputDirectory, _ => true
  | .jsonIndent, value => value.count?.isSome
  | .scriptExtensions, value => value.texts?.isSome

/-- The settings with a value taken for a field, if it fits. -/
def taking (settings : Settings) : Field → Value → Settings
  | .logLevel, value => { settings with logLevel := (level? value.plainText).getD settings.logLevel }
  | .outputDirectory, value => { settings with outputDirectory := value.plainText }
  | .jsonIndent, value => { settings with jsonIndent := value.count?.getD settings.jsonIndent }
  | .scriptExtensions, value =>
      { settings with
        scriptExtensions := (value.texts?.map (List.map dotted)).getD settings.scriptExtensions }

/-- Settings with the same value of a field. -/
def Field.Same (left right : Settings) : Field → Prop
  | .logLevel => left.logLevel = right.logLevel
  | .outputDirectory => left.outputDirectory = right.outputDirectory
  | .jsonIndent => left.jsonIndent = right.jsonIndent
  | .scriptExtensions => left.scriptExtensions = right.scriptExtensions

namespace Field.Same

variable {field : Field} {left middle right : Settings}

theorem refl (settings : Settings) (field : Field) : field.Same settings settings := by
  cases field <;> rfl

theorem symm (same : field.Same left right) : field.Same right left := by
  cases field <;> exact Eq.symm same

theorem trans (first : field.Same left middle) (second : field.Same middle right) :
    field.Same left right := by
  cases field <;> exact Eq.trans first second

theorem eq_of_all (same : ∀ field : Field, field.Same left right) : left = right := by
  have logLevel := same .logLevel
  have outputDirectory := same .outputDirectory
  have jsonIndent := same .jsonIndent
  have scriptExtensions := same .scriptExtensions
  obtain ⟨_, _, _, _⟩ := left
  obtain ⟨_, _, _, _⟩ := right
  cases logLevel
  cases outputDirectory
  cases jsonIndent
  cases scriptExtensions
  rfl

end Field.Same

theorem taking_other {field other : Field} (different : field ≠ other) (settings : Settings) (value : Value) :
    field.Same (settings.taking other value) settings := by
  cases field <;> cases other <;> first | rfl | exact absurd rfl different

theorem taking_same {field : Field} {left right : Settings} (same : field.Same left right) (value : Value) :
    field.Same (left.taking field value) (right.taking field value) := by
  cases field with
  | logLevel => exact congrArg (level? value.plainText).getD same
  | outputDirectory => rfl
  | jsonIndent => exact congrArg value.count?.getD same
  | scriptExtensions => exact congrArg (value.texts?.map (List.map dotted)).getD same

theorem withTree_shown {α : Type} {pool : Pool} {item : Item} {value : Value}
    (shown : pool.tree? item = some value) (short : value.isOverlong = false) (next : Value → Attempt α) :
    withTree pool item next = next value := by
  simp [withTree, shown, short]

theorem setField_lenient {pool : Pool} {item : Item} {value : Value} (shown : pool.tree? item = some value)
    (short : value.isOverlong = false) (settings : Settings) (field : Field) :
    ∃ tolerated, setField false pool settings field item = ⟨tolerated, .ok (settings.taking field value)⟩ ∧
      (tolerated = [] ↔ field.fits value = true) := by
  cases field with
  | logLevel =>
      rw [setField, withTree_shown shown short]
      dsimp only
      split
      · rename_i named
        have found : level? value.plainText = some _ := if_pos named
        exact ⟨[], by rw [taking, found]; rfl, by simp [Field.fits, found]⟩
      · rename_i unnamed
        have missing : level? value.plainText = none := if_neg unnamed
        exact ⟨[.badLevel value.plainText], by rw [taking, missing]; rfl, by simp [Field.fits, missing]⟩
  | outputDirectory =>
      rw [setField, withTree_shown shown short]
      exact ⟨[], rfl, by simp [Field.fits]⟩
  | jsonIndent =>
      have counted := Pool.treeIn?_count shown
      unfold setField
      dsimp only
      split
      · rename_i indent
        have found : value.count? = some indent := counted
        exact ⟨[], by simp [Attempt.done, taking, found], by simp [Field.fits, found]⟩
      · rename_i other
        have missing : item.count? = none := by
          unfold Item.count?
          split
          · exact absurd rfl (other _)
          · rfl
        rw [missing] at counted
        rw [withTree_shown shown short]
        refine ⟨[.badIndent value.literal], ?_, ?_⟩
        · simp [Attempt.fail, taking, counted]
        · simp [Field.fits, counted]
  | scriptExtensions =>
      rw [setField, Pool.texts?_eq_tree (by simp) shown]
      cases listed : value.texts? with
      | none => exact ⟨[.badExtensions], by simp [Attempt.fail, taking, listed], by simp [Field.fits, listed]⟩
      | some extensions =>
          exact ⟨[], by simp [Attempt.done, taking, listed], by simp [Field.fits, listed]⟩

/-! ### Taking in a mapping -/

/-- What entries have for a field, as a tree. -/
def valueIn? (pool : Pool) (entries : Entries) (field : Field) : Option Value :=
  (entries.lookup (.text field.key)).bind pool.tree?

/-- The settings with what there is for a field. -/
def takingAny (settings : Settings) (field : Field) (value? : Option Value) : Settings :=
  (value?.map (settings.taking field)).getD settings

theorem takingAny_same {field : Field} {left right : Settings} (same : field.Same left right)
    (value? : Option Value) : field.Same (left.takingAny field value?) (right.takingAny field value?) := by
  cases value? with
  | none => exact same
  | some value => exact taking_same same value

theorem valueIn?_single {pool : Pool} {key item : Item} {field : Field} :
    valueIn? pool [(key, item)] field = if Field.ofKey? key = some field then pool.tree? item else none := by
  rw [valueIn?, List.lookup_cons]
  by_cases own : Item.text field.key = key
  · rw [own, beq_self_eq_true, if_pos (Field.ofKey?_eq_some_iff.mpr own.symm)]
    rfl
  · rw [beq_eq_false_iff_ne.mpr own, if_neg fun meant => own (Field.ofKey?_eq_some_iff.mp meant).symm]
    rfl

/-- A field is found in the first entry or in the rest, not in both. -/
theorem valueIn?_cons {pool : Pool} {entry : Item × Item} {rest : Entries}
    (fresh : entry.1 ∉ rest.map Prod.fst) (field : Field) :
    valueIn? pool [entry] field = none ∧ valueIn? pool (entry :: rest) field = valueIn? pool rest field ∨
      valueIn? pool rest field = none ∧ valueIn? pool (entry :: rest) field = valueIn? pool [entry] field := by
  by_cases own : Item.text field.key = entry.1
  · right
    have absent : rest.lookup (.text field.key) = none := by
      rw [List.lookup_eq_none_iff]
      intro other member
      simp only [bne_iff_ne, ne_eq]
      intro same
      exact fresh (List.mem_map.mpr ⟨other, member, same.symm.trans own⟩)
    refine ⟨by rw [valueIn?, absent, Option.bind_none], ?_⟩
    rw [valueIn?, valueIn?, List.lookup_cons, List.lookup_cons, own, beq_self_eq_true]
  · left
    rw [valueIn?, valueIn?, valueIn?, List.lookup_cons, List.lookup_cons, beq_eq_false_iff_ne.mpr own]
    exact ⟨rfl, rfl⟩

theorem setEntry_lenient {pool : Pool} {key item : Item} (keyShows : pool.Shows key)
    (itemShows : pool.Shows item) (settings : Settings) :
    ∃ tolerated after, setEntry false pool settings key item = ⟨tolerated, .ok after⟩ ∧
      (∀ field : Field, field.Same after (settings.takingAny field (valueIn? pool [(key, item)] field))) ∧
      (tolerated = [] ↔ (Field.ofKey? key).isSome ∧
        ∀ field value, valueIn? pool [(key, item)] field = some value → field.fits value = true) := by
  rw [setEntry]
  cases meant : Field.ofKey? key with
  | none =>
      obtain ⟨value, shown, short⟩ := keyShows.tree
      refine ⟨[.unknownKey value.plainText], settings, withTree_shown shown short _, ?_, by simp⟩
      intro field
      rw [valueIn?_single, meant, if_neg (by simp)]
      exact .refl settings field
  | some own =>
      obtain ⟨value, shown, short⟩ := itemShows.tree
      obtain ⟨tolerated, taken, fits⟩ := setField_lenient shown short settings own
      have found : ∀ field, valueIn? pool [(key, item)] field = if own = field then some value else none := by
        intro field
        simp only [valueIn?_single, meant, Option.some.injEq, Pool.tree?, shown]
      refine ⟨tolerated, settings.taking own value, taken, ?_, ?_⟩
      · intro field
        rw [found]
        split
        · rename_i mine
          subst mine
          exact .refl _ _
        · rename_i other
          exact taking_other (Ne.symm other) settings value
      · rw [fits]
        constructor
        · intro ownFits
          refine ⟨rfl, ?_⟩
          intro field other taking
          rw [found] at taking
          split at taking
          · rename_i mine
            cases taking
            exact mine ▸ ownFits
          · contradiction
        · rintro ⟨_, all⟩
          exact all own value (by rw [found, if_pos rfl])

theorem setEntries_lenient {pool : Pool} {entries : Entries} (distinct : (entries.map Prod.fst).Nodup)
    (shows : ∀ entry ∈ entries, pool.Shows entry.1 ∧ pool.Shows entry.2) (settings : Settings) :
    ∃ tolerated after, setEntries false pool settings entries = ⟨tolerated, .ok after⟩ ∧
      (∀ field : Field, field.Same after (settings.takingAny field (valueIn? pool entries field))) ∧
      (tolerated = [] ↔ (∀ entry ∈ entries, (Field.ofKey? entry.1).isSome) ∧
        ∀ field value, valueIn? pool entries field = some value → field.fits value = true) := by
  induction entries generalizing settings with
  | nil => exact ⟨[], settings, rfl, Field.Same.refl settings, by simp [valueIn?]⟩
  | cons entry rest ih =>
      rw [List.map_cons, List.nodup_cons] at distinct
      obtain ⟨keyShows, itemShows⟩ := shows entry (by simp)
      obtain ⟨first, middle, step, stepFields, stepSilent⟩ := setEntry_lenient keyShows itemShows settings
      obtain ⟨tolerated, after, done, fields, silent⟩ :=
        ih distinct.2 (fun entry member => shows entry (by simp [member])) middle
      refine ⟨first ++ tolerated, after, by simp [setEntries, step, Attempt.andThen, done], ?_, ?_⟩
      · intro field
        -- Keys are distinct, so that one of the two parts leaves the field alone.
        rcases valueIn?_cons distinct.1 field with ⟨absent, same⟩ | ⟨absent, same⟩
        · have stepField := stepFields field
          rw [absent] at stepField
          rw [same]
          exact (fields field).trans (takingAny_same stepField _)
        · have restField := fields field
          rw [absent] at restField
          rw [same]
          exact restField.trans (stepFields field)
      · rw [List.append_eq_nil_iff, stepSilent, silent, List.forall_mem_cons]
        constructor
        · rintro ⟨⟨known, fits⟩, restKnown, restFits⟩
          refine ⟨⟨known, restKnown⟩, ?_⟩
          intro field value found
          rcases valueIn?_cons distinct.1 field with ⟨_, same⟩ | ⟨_, same⟩
          · exact restFits field value (same.symm.trans found)
          · exact fits field value (same.symm.trans found)
        · rintro ⟨⟨known, restKnown⟩, fits⟩
          refine ⟨⟨known, ?_⟩, restKnown, ?_⟩
          · intro field value found
            rcases valueIn?_cons distinct.1 field with ⟨absent, _⟩ | ⟨_, same⟩
            · exact absurd (absent.symm.trans found) (by simp)
            · exact fits field value (same.trans found)
          · intro field value found
            rcases valueIn?_cons distinct.1 field with ⟨_, same⟩ | ⟨absent, _⟩
            · exact fits field value (same.trans found)
            · exact absurd (absent.symm.trans found) (by simp)

/-! ### Values that hold the mapping -/

theorem level?_opened {c : Char} (filled : Text.isBlank c = false) (plain : Text.capitalsOf c = [c])
    (foreign : ∀ level ∈ levels, level.head? ≠ some c) (rest : Text) : level? (c :: rest) = none := by
  have trimmed : ∃ kept, Text.trimBlank (c :: rest) = c :: kept := by
    refine ⟨(rest.reverse.dropWhile Text.isBlank).reverse, ?_⟩
    rw [Text.trimBlank, List.dropWhile_cons, filled]
    simp only [Bool.false_eq_true, if_false, List.reverse_cons]
    by_cases blank : ∀ d ∈ rest.reverse, Text.isBlank d = true
    · rw [List.dropWhile_append_of_pos blank, List.dropWhile_eq_nil_iff.mpr blank]
      simp [filled]
    · have kept : rest.reverse.dropWhile Text.isBlank ≠ [] := fun gone =>
        blank (List.dropWhile_eq_nil_iff.mp gone)
      rw [List.dropWhile_append, if_neg (by simpa using kept)]
      simp
  obtain ⟨kept, trimmed⟩ := trimmed
  refine if_neg fun named => ?_
  rw [trimmed, Text.capitals, List.flatMap_cons, plain] at named
  exact foreign _ (List.contains_iff_mem.mp named) rfl

/-- Only an atom can name a level. -/
theorem level?_compound {value : Value} (compound : value.isAtom = false) :
    level? value.plainText = none := by
  have bracket := @level?_opened '[' (by decide) (by decide) (by decide)
  have brace := @level?_opened '\x7b' (by decide) (by decide) (by decide)
  have parenthesis := @level?_opened '(' (by decide) (by decide) (by decide)
  cases value with
  | atom content => contradiction
  | list items => exact bracket _
  | pair left right => exact parenthesis _
  | mapping entries => exact brace _
  | set members =>
      cases members with
      | nil => decide
      | cons first rest => exact brace _
  | enclosing isMapping => cases isMapping <;> decide

theorem count?_compound {value : Value} (compound : value.isAtom = false) : value.count? = none := by
  cases value <;> first | rfl | contradiction

section Part

variable {payload : Payload} (sound : payload.Sound) (field : Field)

include sound

/-- A value can be told from its part: they differ at most inside containers, and not in their texts. -/
theorem part?_value? :
    payload.part? field = payload.value? field ∨
      ∃ part value, payload.part? field = some part ∧ payload.value? field = some value ∧
        part.isAtom = false ∧ value.isAtom = false ∧ part.texts? = value.texts? := by
  rw [Payload.part?, Payload.value?]
  cases found : payload.item? field with
  | none => exact .inl rfl
  | some item =>
      cases item with
      | atom content => exact .inl rfl
      | unlike mark => exact .inl rfl
      | container number =>
          have member := (Entries.lookup_eq_some_iff sound.distinct).mp found
          have shows := (sound.shows _ member).2
          obtain ⟨value, shown, _⟩ := shows.tree
          obtain ⟨part, partShown, _⟩ :=
            (shows.deeper (List.nil_subset [payload.number])).tree
          refine .inr ⟨part, value, partShown, shown, Pool.isAtom_of_container partShown,
            Pool.isAtom_of_container shown, ?_⟩
          rw [← Pool.texts?_eq_tree (by simpa using sound.mapping) partShown,
            ← Pool.texts?_eq_tree (by simp) shown]

omit sound in
theorem part?_apart (apart : payload.Apart) :
    payload.part? .outputDirectory = payload.value? .outputDirectory := by
  rw [Payload.part?, Payload.value?]
  cases found : payload.item? .outputDirectory with
  | none => rfl
  | some item => exact Pool.treeIn?_apart (apart item found) (by simp)

theorem takingAny_part (apart : field = .outputDirectory → payload.Apart) (settings : Settings) :
    settings.takingAny field (payload.part? field) = settings.takingAny field (payload.value? field) := by
  rcases part?_value? sound field with equal | ⟨part, value, isPart, isValue, parts⟩
  · rw [equal]
  · cases field with
    | outputDirectory => rw [part?_apart (apart rfl)]
    | logLevel => simp [isPart, isValue, takingAny, taking, level?_compound parts.1, level?_compound parts.2.1]
    | jsonIndent => simp [isPart, isValue, takingAny, taking, count?_compound parts.1, count?_compound parts.2.1]
    | scriptExtensions => simp [isPart, isValue, takingAny, taking, parts.2.2]

theorem fits_part :
    (∀ value, payload.part? field = some value → field.fits value = true) ↔
      ∀ value, payload.value? field = some value → field.fits value = true := by
  rcases part?_value? sound field with equal | ⟨part, value, isPart, isValue, parts⟩
  · rw [equal]
  · have fitting : field.fits part = field.fits value := by
      cases field with
      | logLevel => simp [Field.fits, level?_compound parts.1, level?_compound parts.2.1]
      | outputDirectory => rfl
      | jsonIndent => simp [Field.fits, count?_compound parts.1, count?_compound parts.2.1]
      | scriptExtensions => simp [Field.fits, parts.2.2]
    simp [isPart, isValue, fitting]

end Part

end ScriptDocs.Settings
