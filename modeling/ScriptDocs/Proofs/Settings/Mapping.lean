import ScriptDocs.Proofs.Value.Pool
import ScriptDocs.Settings.Loading

/-!
The mapping of a settings file. Setting an entry is seen under its own key only; what the environment puts
into the mapping shows in no value that does not hold the mapping itself.
-/

namespace ScriptDocs

theorem Item.sameKey_text {key : Item} {characters : Text} :
    key.sameKey (.text characters) = true ↔ key = .text characters := by
  cases key with
  | atom content =>
      cases content with
      | bool truth => cases truth <;> simp [sameKey, text, Atom.sameKey, Atom.number?]
      | text other => simp [sameKey, text, Atom.sameKey, Atom.number?]
      | null => simp [sameKey, text, Atom.sameKey, Atom.number?]
      | int n => simp [sameKey, text, Atom.sameKey, Atom.number?]
      | real x => simp [sameKey, text, Atom.sameKey, Atom.number?]
      | bytes content => simp [sameKey, text, Atom.sameKey, Atom.number?]
      | date day => simp [sameKey, text, Atom.sameKey, Atom.number?]
      | moment instant => simp [sameKey, text, Atom.sameKey, Atom.number?]
  | unlike mark => simp [sameKey, text]
  | container number => simp [sameKey, text]

namespace Entries

variable {entries : Entries} {characters : Text} {value : Item}

theorem lookup_eq_some_iff {key : Item} (distinct : (entries.map Prod.fst).Nodup) :
    entries.lookup key = some value ↔ (key, value) ∈ entries := by
  induction entries with
  | nil => simp
  | cons first rest ih =>
      obtain ⟨other, old⟩ := first
      rw [List.map_cons, List.nodup_cons] at distinct
      by_cases same : key = other
      · subst same
        rw [List.lookup_cons_self, Option.some.injEq, List.mem_cons, Prod.mk.injEq]
        constructor
        · rintro rfl
          exact .inl ⟨rfl, rfl⟩
        · rintro (⟨_, rfl⟩ | later)
          · rfl
          · exact absurd (List.mem_map_of_mem later) distinct.1
      · rw [List.lookup_cons, beq_eq_false_iff_ne.mpr same, List.mem_cons, Prod.mk.injEq]
        simpa [same] using ih distinct.2

theorem lookup_set_same : (set (.text characters) value entries).lookup (.text characters) = some value := by
  induction entries with
  | nil => simp [set]
  | cons first rest ih =>
      obtain ⟨other, old⟩ := first
      rw [set]
      split
      · rename_i same
        rw [Item.sameKey_text.mp same, List.lookup_cons_self]
      · rename_i different
        rw [Item.sameKey_text] at different
        rw [List.lookup_cons, beq_eq_false_iff_ne.mpr (Ne.symm different)]
        exact ih

theorem lookup_set_other {key : Item} (different : key ≠ .text characters) :
    (set (.text characters) value entries).lookup key = entries.lookup key := by
  induction entries with
  | nil => simp [set, List.lookup_cons, beq_eq_false_iff_ne.mpr different]
  | cons first rest ih =>
      obtain ⟨other, old⟩ := first
      rw [set]
      split
      · rename_i same
        rw [Item.sameKey_text.mp same]
        simp [List.lookup_cons, beq_eq_false_iff_ne.mpr different]
      · rw [List.lookup_cons, List.lookup_cons, ih]

theorem mem_set {entry : Item × Item} (member : entry ∈ set (.text characters) value entries) :
    entry ∈ entries ∨ entry = (.text characters, value) := by
  induction entries with
  | nil =>
      right
      simpa [set] using member
  | cons first rest ih =>
      obtain ⟨other, old⟩ := first
      rw [set] at member
      split at member
      · rename_i same
        rw [Item.sameKey_text.mp same] at member
        rcases List.mem_cons.mp member with here | later
        · exact .inr here
        · exact .inl (List.mem_cons_of_mem _ later)
      · rcases List.mem_cons.mp member with rfl | later
        · exact .inl List.mem_cons_self
        · exact (ih later).imp (List.mem_cons_of_mem _) id

theorem keys_set : (set (.text characters) value entries).map Prod.fst =
    if Item.text characters ∈ entries.map Prod.fst then entries.map Prod.fst
    else entries.map Prod.fst ++ [.text characters] := by
  induction entries with
  | nil => simp [set]
  | cons first rest ih =>
      obtain ⟨other, old⟩ := first
      rw [set]
      split
      · rename_i same
        simp [Item.sameKey_text.mp same]
      · rename_i different
        rw [Item.sameKey_text] at different
        rw [List.map_cons, ih]
        split <;> simp_all [Ne.symm different]

theorem distinct_set (distinct : (entries.map Prod.fst).Nodup) :
    ((set (.text characters) value entries).map Prod.fst).Nodup := by
  rw [keys_set]
  split
  · exact distinct
  · rename_i fresh
    rw [List.nodup_append]
    refine ⟨distinct, by simp, ?_⟩
    rintro key member _ last rfl
    exact fresh (List.mem_singleton.mp last ▸ member)

end Entries

namespace Settings

theorem Field.key_injective {left right : Field} (same : left.key = right.key) : left = right := by
  cases left <;> cases right <;> first | rfl | exact absurd same (by decide)

theorem Field.ofKey?_eq_some_iff {key : Item} {field : Field} :
    Field.ofKey? key = some field ↔ key = .text field.key := by
  constructor
  · intro found
    unfold Field.ofKey? at found
    split at found
    · have same := List.find?_some found
      rw [eq_of_beq same]
      rfl
    · contradiction
  · rintro rfl
    cases field <;> decide

/-- The text of a variable that is set to something. -/
def said (variableText : Option Text) : Option Text :=
  variableText.filter (fun text => !text.isEmpty)

/-- The variable of the environment for a field. -/
def variableOf (environment : Environment) : Field → Option Text
  | .logLevel => environment.logLevel
  | .outputDirectory => environment.outputDirectory
  | _ => none

theorem override_eq (field : Field) (variableText : Option Text) (payload : Payload) :
    override field variableText payload =
      ((said variableText).map fun text => payload.set (.text field.key) (.text text)).getD payload := by
  cases variableText with
  | none => rfl
  | some text => cases text <;> rfl

namespace Payload

/-- What the mapping has for a field. -/
def item? (payload : Payload) (field : Field) : Option Item :=
  payload.entries.lookup (.text field.key)

/-- What the mapping has for a field, as a tree. -/
def value? (payload : Payload) (field : Field) : Option Value :=
  (payload.item? field).bind payload.pool.tree?

/-- The tree of what stands in the mapping. It ends where the mapping itself stands in there. -/
def shown? (payload : Payload) : Item → Option Value :=
  payload.pool.treeIn? Pool.levelLimit [payload.number]

/-- What the mapping has for a field, down to where the mapping itself stands in it. -/
def part? (payload : Payload) (field : Field) : Option Value :=
  (payload.item? field).bind payload.shown?

/-- The keys and values of the mapping, down to where the mapping itself stands in them. -/
def parts (payload : Payload) : List (Option Value × Option Value) :=
  payload.entries.map (Prod.map payload.shown? payload.shown?)

/-- The payload with other entries in its mapping. -/
def withEntries (payload : Payload) (entries : Entries) : Payload :=
  { payload with pool := payload.pool.set payload.number (.mapping entries) }

/-- A mapping with distinct keys, all of whose keys and values can be shown. -/
structure Sound (payload : Payload) : Prop where
  mapping : (payload.pool.get payload.number).isMapping = true
  distinct : (payload.entries.map Prod.fst).Nodup
  shows : ∀ entry ∈ payload.entries, payload.pool.Shows entry.1 ∧ payload.pool.Shows entry.2

/-- The output directory that the mapping has does not hold the mapping itself. -/
def Apart (payload : Payload) : Prop :=
  ∀ item ∈ payload.item? .outputDirectory, ¬ payload.pool.Holds payload.number item

section WithEntries

variable {payload : Payload} (mapping : (payload.pool.get payload.number).isMapping = true)

include mapping

theorem number_lt : payload.number < payload.pool.containers.size := by
  refine Nat.lt_of_not_le fun beyond => ?_
  rw [Pool.get, Array.getD_eq_getD_getElem?, Array.getElem?_eq_none beyond] at mapping
  contradiction

theorem get_entries : payload.pool.get payload.number = .mapping payload.entries := by
  rw [entries, Pool.entries]
  cases held : payload.pool.get payload.number with
  | mapping entries => rfl
  | list items => simp [held, Container.isMapping] at mapping
  | pairs items => simp [held, Container.isMapping] at mapping
  | set members => simp [held, Container.isMapping] at mapping

variable (entries : Entries)

theorem get_withEntries :
    (payload.withEntries entries).pool.get payload.number = .mapping entries := by
  have within := number_lt mapping
  simp [withEntries, Pool.get, Pool.set, Array.getD_eq_getD_getElem?, within]

theorem entries_withEntries : (payload.withEntries entries).entries = entries := by
  rw [Payload.entries, Pool.entries]
  have held := get_withEntries mapping entries
  rw [show (payload.withEntries entries).number = payload.number from rfl, held]

omit mapping in
theorem alikeOff_withEntries :
    Pool.AlikeOff payload.number payload.pool (payload.withEntries entries).pool := by
  intro other different
  simp [withEntries, Pool.get, Pool.set, Array.getD_eq_getD_getElem?, Ne.symm different]

end WithEntries

/-- Changing the entries of the mapping, with nothing new in them but texts, leaves a payload sound. -/
theorem Sound.change {before after : Payload} (sound : before.Sound) (number : after.number = before.number)
    (alike : Pool.AlikeOff before.number before.pool after.pool)
    (mapping : (after.pool.get after.number).isMapping = true)
    (distinct : (after.entries.map Prod.fst).Nodup)
    (within : ∀ entry ∈ after.entries, entry ∈ before.entries ∨
      ∃ key text : Text, entry = (.text key, .text text)) : after.Sound := by
  have grown : ∀ other, ∀ item ∈ (after.pool.get other).items,
      item ∈ (before.pool.get other).items ∨
        ∃ content, item = .atom content ∧ content.isOverlong = false := by
    intro other item member
    by_cases same : other = before.number
    · rw [same, ← number, get_entries mapping, Container.items] at member
      obtain ⟨entry, inside, part⟩ := List.mem_flatMap.mp member
      rcases within entry inside with old | ⟨key, text, rfl⟩
      · left
        rw [same, get_entries sound.mapping, Container.items]
        exact List.mem_flatMap.mpr ⟨entry, old, part⟩
      · right
        simp only [List.mem_cons, List.not_mem_nil, or_false] at part
        rcases part with rfl | rfl
        · exact ⟨_, rfl, rfl⟩
        · exact ⟨_, rfl, rfl⟩
    · rw [← alike other same] at member
      exact .inl member
  refine ⟨mapping, distinct, ?_⟩
  intro entry member
  rcases within entry member with old | ⟨key, text, rfl⟩
  · have shown := sound.shows entry old
    exact ⟨shown.1.mono grown, shown.2.mono grown⟩
  · exact ⟨rfl, rfl⟩

/-- What stands in the mapping can be shown without what else is in there. -/
theorem shown?_alikeOff {before after : Payload} (number : after.number = before.number)
    (alike : Pool.AlikeOff before.number before.pool after.pool)
    (mapping : (before.pool.get before.number).isMapping = true)
    (stillMapping : (after.pool.get after.number).isMapping = true) : after.shown? = before.shown? := by
  rw [number] at stillMapping
  funext item
  rw [shown?, shown?, number]
  exact Pool.treeIn?_alikeOff alike (stillMapping.trans mapping.symm) (by simp) item

/-- Payloads that have the same for a field. -/
def SameEntry (left right : Payload) (field : Field) : Prop :=
  right.part? field = left.part? field

/-- Payloads that have the same keys with the same values, in whatever order. -/
def Reorders (before after : Payload) : Prop :=
  after.parts.Perm before.parts

theorem part?_eq_some_iff {payload : Payload} (sound : payload.Sound) {field : Field} {part : Value} :
    payload.part? field = some part ↔ (some (.atom (.text field.key)), some part) ∈ payload.parts := by
  rw [part?, Option.bind_eq_some_iff, parts, List.mem_map]
  constructor
  · rintro ⟨item, found, shown⟩
    refine ⟨_, (Entries.lookup_eq_some_iff sound.distinct).mp found, ?_⟩
    exact Prod.ext (Pool.treeIn?_eq_text_iff.mpr rfl) shown
  · rintro ⟨⟨key, item⟩, member, shown⟩
    obtain ⟨named, shown⟩ := Prod.mk.inj shown
    rw [Pool.treeIn?_eq_text_iff.mp named] at member
    exact ⟨item, (Entries.lookup_eq_some_iff sound.distinct).mpr member, shown⟩

theorem known_iff_parts {payload : Payload} : (∀ entry ∈ payload.entries, (Field.ofKey? entry.1).isSome) ↔
    ∀ part ∈ payload.parts, ∃ field : Field, part.1 = some (.atom (.text field.key)) := by
  have known : ∀ key, (Field.ofKey? key).isSome ↔
      ∃ field : Field, payload.shown? key = some (.atom (.text field.key)) := by
    intro key
    simp only [Option.isSome_iff_exists, Field.ofKey?_eq_some_iff, shown?, Pool.treeIn?_eq_text_iff]
  simp only [known, parts, List.forall_mem_map, Prod.map_fst]

theorem Reorders.sameEntry {before after : Payload} (reorders : Reorders before after)
    (soundBefore : before.Sound) (soundAfter : after.Sound) (field : Field) : SameEntry before after field := by
  apply Option.ext
  intro part
  rw [part?_eq_some_iff soundBefore, part?_eq_some_iff soundAfter, reorders.mem_iff]

theorem Reorders.known_iff {before after : Payload} (reorders : Reorders before after) :
    (∀ entry ∈ after.entries, (Field.ofKey? entry.1).isSome) ↔
      ∀ entry ∈ before.entries, (Field.ofKey? entry.1).isSome := by
  simp only [known_iff_parts, reorders.mem_iff]

/-- How a payload looks after the environment has put an entry for a field into its mapping. -/
structure Amends (before after : Payload) : Prop where
  number : after.number = before.number
  alike : Pool.AlikeOff before.number before.pool after.pool
  sound : after.Sound
  known : (∀ entry ∈ after.entries, (Field.ofKey? entry.1).isSome) ↔
    ∀ entry ∈ before.entries, (Field.ofKey? entry.1).isSome

theorem Amends.trans {before middle after : Payload} (first : Amends before middle)
    (second : Amends middle after) : Amends before after where
  number := second.number.trans first.number
  alike := by
    intro other different
    have further : other ≠ middle.number := by rwa [first.number]
    rw [first.alike other different, second.alike other further]
  sound := second.sound
  known := second.known.trans first.known

theorem Amends.sameEntry {before after : Payload} (amends : Amends before after) (sound : before.Sound)
    {field : Field} (item : after.item? field = before.item? field) : SameEntry before after field := by
  have shown := shown?_alikeOff amends.number amends.alike sound.mapping amends.sound.mapping
  rw [SameEntry, part?, part?, item, shown]

theorem Amends.apart {before after : Payload} (amends : Amends before after)
    (item : after.item? .outputDirectory = before.item? .outputDirectory) (apart : before.Apart) :
    after.Apart := by
  intro one found holds
  rw [amends.number] at holds
  rw [item] at found
  exact apart one found (amends.alike.holds holds)

section Set

variable {payload : Payload} (sound : payload.Sound) (field : Field) (text : Text)

include sound

theorem entries_set : (payload.set (.text field.key) (.text text)).entries =
    Entries.set (.text field.key) (.text text) payload.entries :=
  entries_withEntries sound.mapping _

theorem known_set :
    (∀ entry ∈ (payload.set (.text field.key) (.text text)).entries, (Field.ofKey? entry.1).isSome) ↔
      ∀ entry ∈ payload.entries, (Field.ofKey? entry.1).isSome := by
  have ownKnown : (Field.ofKey? (.text field.key)).isSome := by
    rw [Field.ofKey?_eq_some_iff.mpr rfl]
    rfl
  have byKey : ∀ list : Entries, (∀ entry ∈ list, (Field.ofKey? entry.1).isSome) ↔
      ∀ key ∈ list.map Prod.fst, (Field.ofKey? key).isSome := by
    simp
  rw [entries_set sound, byKey, byKey, Entries.keys_set]
  split
  · exact Iff.rfl
  · simpa [or_imp, forall_and] using fun _ => ownKnown

theorem set_amends : Amends payload (payload.set (.text field.key) (.text text)) := by
  have alike : Pool.AlikeOff payload.number payload.pool (payload.set (.text field.key) (.text text)).pool :=
    alikeOff_withEntries _
  refine ⟨rfl, alike, sound.change rfl alike ?_ ?_ ?_, known_set sound field text⟩
  · exact congrArg Container.isMapping (get_withEntries sound.mapping _)
  · rw [entries_set sound]
    exact Entries.distinct_set sound.distinct
  · rw [entries_set sound]
    intro entry member
    exact (Entries.mem_set member).imp id fun same => ⟨_, _, same⟩

theorem item?_set (other : Field) : (payload.set (.text field.key) (.text text)).item? other =
    if other = field then some (.text text) else payload.item? other := by
  rw [item?, entries_set sound]
  split
  · rename_i same
    rw [same, Entries.lookup_set_same]
  · rename_i different
    refine Entries.lookup_set_other fun same => different (Field.key_injective ?_)
    exact Atom.text.inj (Item.atom.inj same)

end Set

theorem override_amends {payload : Payload} (sound : payload.Sound) (field : Field)
    (variableText : Option Text) :
    Amends payload (override field variableText payload) ∧
      ∀ other, (override field variableText payload).item? other =
        if other = field then ((said variableText).map .text).or (payload.item? field)
        else payload.item? other := by
  rw [override_eq]
  cases said variableText with
  | none =>
      refine ⟨⟨rfl, fun _ _ => rfl, sound, Iff.rfl⟩, ?_⟩
      intro other
      split
      · rename_i same
        subst same
        rfl
      · rfl
  | some text => exact ⟨set_amends sound field text, item?_set sound field text⟩

/-- The payload once the environment has been heard. -/
def heard (environment : Environment) (payload : Payload) : Payload :=
  override .outputDirectory environment.outputDirectory (override .logLevel environment.logLevel payload)

theorem heard_amends {payload : Payload} (sound : payload.Sound) (environment : Environment) :
    Amends payload (payload.heard environment) ∧
      ∀ field, (payload.heard environment).item? field =
        ((said (variableOf environment field)).map .text).or (payload.item? field) := by
  obtain ⟨first, firstItem⟩ := override_amends sound .logLevel environment.logLevel
  obtain ⟨second, secondItem⟩ := override_amends first.sound .outputDirectory environment.outputDirectory
  refine ⟨first.trans second, ?_⟩
  intro field
  rw [heard, secondItem]
  cases field <;> simp [firstItem, variableOf, said]

end Payload

end Settings

end ScriptDocs
