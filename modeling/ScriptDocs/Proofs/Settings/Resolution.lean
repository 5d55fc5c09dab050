import ScriptDocs.Proofs.Settings.Fields
import ScriptDocs.Proofs.Settings.Strictness

/-!
The settings that are loaded for a mapping. Lenient loading always gives settings, and each field of them
is what its own variable, or else its own entry, has for it. So other entries and their order do not
matter; strict loading refuses a mapping for what is in it, in whatever order; and the settings can be
loaded again from a mapping of their four fields. All this is said of a mapping from anywhere, whatever
the readers of the formats are.
-/

namespace ScriptDocs.Settings

structure Origin where
  decoders : Decoders := {}
  volume : FileTree.Volume
  path : Text

namespace Origin

/-- The mapping that is found there. -/
def payload (origin : Origin) (strict : Bool) : Attempt Payload :=
  if origin.path.isEmpty then .done .empty
  else readPayload origin.decoders origin.volume strict origin.path

/-- An origin whose file decodes to a mapping. -/
def Gives (origin : Origin) (payload : Payload) : Prop :=
  origin.payload false = .done payload

def load (origin : Origin) (environment : Environment) (strict : Bool) : Loaded :=
  loadWith origin.decoders origin.volume environment origin.path (some strict)

/-- Strict loading ends with a problem. -/
def Refuses (origin : Origin) (environment : Environment) : Prop :=
  ∃ problem, (origin.load environment true).1 = .error (.problem problem)

theorem modesAgree (origin : Origin) (environment : Environment) :
    ModesAgree (origin.load environment false) (origin.load environment true) := by
  rw [load, load, loadWith_eq_shown, loadWith_eq_shown]
  exact (ModesAgree.of_inStep (inStep_resolve _ _ _ _)).shown

theorem Gives.resolve {origin : Origin} {payload : Payload} (gives : origin.Gives payload)
    (environment : Environment) :
    resolve origin.decoders origin.volume environment origin.path false =
      setEntries false (payload.heard environment).pool {} (payload.heard environment).entries := by
  rw [Gives, Origin.payload] at gives
  rw [Settings.resolve, gives]
  rfl

end Origin

/-! ### What there is for each field -/

/-- What there is for a field: its variable, or else what the mapping has. -/
def chosen (environment : Environment) (payload : Payload) (field : Field) : Option Value :=
  ((said (variableOf environment field)).map fun text => .atom (.text text)).or (payload.value? field)

/-- The output directory is said, or it does not hold the mapping. -/
def Settled (environment : Environment) (payload : Payload) (field : Field) : Prop :=
  field = .outputDirectory → (said environment.outputDirectory).isSome ∨ payload.Apart

theorem Settled.apart {environment : Environment} {payload : Payload} {field : Field}
    (settled : Settled environment payload field) (silent : said (variableOf environment field) = none) :
    field = .outputDirectory → payload.Apart := by
  rintro rfl
  refine (settled rfl).resolve_left fun spoken => ?_
  rw [variableOf] at silent
  simp [silent] at spoken

/-- A mapping that can be taken in without a problem. -/
structure Fits (environment : Environment) (payload : Payload) : Prop where
  known : ∀ entry ∈ payload.entries, (Field.ofKey? entry.1).isSome
  fits : ∀ field value, chosen environment payload field = some value → field.fits value = true

section Chosen

variable {before after : Payload} (soundBefore : before.Sound) (soundAfter : after.Sound) {field : Field}
  (same : Payload.SameEntry before after field) {old new : Environment}
  (unchanged : said (variableOf new field) = said (variableOf old field))

include soundBefore soundAfter same unchanged

theorem takingAny_chosen (settledBefore : Settled old before field) (settledAfter : Settled new after field)
    (settings : Settings) :
    settings.takingAny field (chosen new after field) = settings.takingAny field (chosen old before field) := by
  rw [chosen, chosen, unchanged]
  cases heard : said (variableOf old field) with
  | some text => rfl
  | none =>
      rw [Option.map_none, Option.none_or, Option.none_or,
        ← takingAny_part soundBefore field (settledBefore.apart heard),
        ← takingAny_part soundAfter field (settledAfter.apart (unchanged.trans heard)), same]

theorem fits_chosen :
    (∀ value, chosen new after field = some value → field.fits value = true) ↔
      ∀ value, chosen old before field = some value → field.fits value = true := by
  rw [chosen, chosen, unchanged]
  cases heard : said (variableOf old field) with
  | some text => rfl
  | none =>
      rw [Option.map_none, Option.none_or, Option.none_or, ← fits_part soundBefore, ← fits_part soundAfter, same]

end Chosen

/-- The environment changes what there is for a field in no other way than by its variable. -/
theorem value?_heard {payload : Payload} (sound : payload.Sound) (environment : Environment) (field : Field) :
    (Settled environment payload field → ∀ settings : Settings,
      settings.takingAny field ((payload.heard environment).value? field) =
        settings.takingAny field (chosen environment payload field)) ∧
    ((∀ value, (payload.heard environment).value? field = some value → field.fits value = true) ↔
      ∀ value, chosen environment payload field = some value → field.fits value = true) := by
  obtain ⟨amends, items⟩ := Payload.heard_amends sound environment
  have item := items field
  cases heard : said (variableOf environment field) with
  | some text =>
      have equal : (payload.heard environment).value? field = chosen environment payload field := by
        rw [Payload.value?, item, chosen, heard]
        rfl
      rw [equal]
      exact ⟨fun _ _ => rfl, Iff.rfl⟩
  | none =>
      -- The other variable may have gone into the mapping, and show if the field holds that.
      rw [heard, Option.map_none, Option.none_or] at item
      have same := amends.sameEntry sound item
      have equal : (payload.heard environment).value? field =
          chosen environment (payload.heard environment) field := by
        rw [chosen, heard]
        rfl
      rw [equal]
      refine ⟨fun settled => takingAny_chosen sound amends.sound same rfl settled ?_,
        fits_chosen sound amends.sound same rfl⟩
      rintro rfl
      exact (settled rfl).imp_right (amends.apart item)

/-! ### The settings of a mapping -/

/-- The settings that a mapping and the environment give: each field by itself. -/
structure Resolved (environment : Environment) (payload : Payload) (settings : Settings) : Prop where
  logLevel : settings.logLevel =
    (((said environment.logLevel).or ((payload.value? .logLevel).map Value.plainText)).bind level?).getD
      "INFO".toList
  outputDirectory : (said environment.outputDirectory).isSome ∨ payload.Apart →
    settings.outputDirectory =
      ((said environment.outputDirectory).or ((payload.value? .outputDirectory).map Value.plainText)).getD
        "output/docs".toList
  jsonIndent : settings.jsonIndent = ((payload.value? .jsonIndent).bind Value.count?).getD 2
  scriptExtensions : settings.scriptExtensions =
    (((payload.value? .scriptExtensions).bind Value.texts?).map (List.map dotted)).getD
      [".bash".toList, ".ksh".toList, ".sh".toList, ".zsh".toList]

/-- Settings into which what there is for each field has been taken. -/
def Taken (environment : Environment) (payload : Payload) (settings : Settings) : Prop :=
  ∀ field, Settled environment payload field →
    field.Same settings (takingAny {} field (chosen environment payload field))

theorem Taken.resolved {environment : Environment} {payload : Payload} {settings : Settings}
    (same : Taken environment payload settings) : Resolved environment payload settings where
  logLevel := by
    have taken := same .logLevel (fun output => by cases output)
    rw [Field.Same] at taken
    rw [taken, chosen, variableOf]
    cases said environment.logLevel with
    | some text => rfl
    | none => cases payload.value? .logLevel <;> rfl
  outputDirectory := by
    intro settled
    have taken := same .outputDirectory fun _ => settled
    rw [Field.Same] at taken
    rw [taken, chosen, variableOf]
    cases said environment.outputDirectory with
    | some text => rfl
    | none => cases payload.value? .outputDirectory <;> rfl
  jsonIndent := by
    have taken := same .jsonIndent (fun output => by cases output)
    rw [Field.Same] at taken
    rw [taken, show chosen environment payload .jsonIndent = payload.value? .jsonIndent from rfl]
    cases payload.value? .jsonIndent <;> rfl
  scriptExtensions := by
    have taken := same .scriptExtensions (fun output => by cases output)
    rw [Field.Same] at taken
    rw [taken, show chosen environment payload .scriptExtensions = payload.value? .scriptExtensions from rfl]
    cases payload.value? .scriptExtensions with
    | none => rfl
    | some value => cases found : value.texts? <;> simp [takingAny, taking, found, FileTree.scriptExtensions]

theorem load_lenient {origin : Origin} {payload : Payload} (gives : origin.Gives payload)
    (sound : payload.Sound) (environment : Environment) :
    ∃ settings, (origin.load environment false).1 = .ok settings ∧ Taken environment payload settings ∧
      ((origin.load environment false).warnings = [] ↔ Fits environment payload) := by
  have amends := (Payload.heard_amends sound environment).1
  obtain ⟨tolerated, settings, done, fields, silent⟩ :=
    setEntries_lenient amends.sound.distinct amends.sound.shows {}
  have same : Taken environment payload settings := by
    intro field settled
    have heard := (value?_heard sound environment field).1 settled {}
    exact heard ▸ fields field
  have quiet : loadQuietlyWith origin.decoders origin.volume environment origin.path (some false) =
      (.ok settings, tolerated.map warning) := by
    rw [loadQuietlyWith, Option.getD_some, gives.resolve environment, done]
  refine ⟨settings, ?_, same, ?_⟩
  · rw [Origin.load, loadWith_eq_shown, Loaded.shown_outcome, quiet]
  · have warned : (origin.load environment false).warnings = tolerated.map warning := by
      rw [Origin.load, loadWith_eq_shown, Loaded.warnings_shown, quiet, Loaded.warnings_tolerated]
    rw [warned, List.map_eq_nil_iff, silent, amends.known]
    constructor
    · rintro ⟨known, fits⟩
      exact ⟨known, fun field => (value?_heard sound environment field).2.mp (fits field)⟩
    · rintro ⟨known, fits⟩
      exact ⟨known, fun field => (value?_heard sound environment field).2.mpr (fits field)⟩

theorem load_strict {origin : Origin} {payload : Payload} (gives : origin.Gives payload)
    (sound : payload.Sound) {environment : Environment} (fits : Fits environment payload) :
    (origin.load environment true).1 = (origin.load environment false).1 := by
  obtain ⟨_, _, _, silent⟩ := load_lenient gives sound environment
  exact (origin.modesAgree environment).unwarned (silent.mpr fits)

theorem refuses_iff {origin : Origin} {payload : Payload} (gives : origin.Gives payload)
    (sound : payload.Sound) (environment : Environment) :
    origin.Refuses environment ↔ ¬ Fits environment payload := by
  obtain ⟨settings, loaded, _, silent⟩ := load_lenient gives sound environment
  constructor
  · rintro ⟨problem, raised⟩ fits
    rw [load_strict gives sound fits, loaded] at raised
    contradiction
  · intro unfit
    cases heard : (origin.load environment false).warnings with
    | nil => exact absurd (silent.mp heard) unfit
    | cons first rest =>
        obtain ⟨problem, raised, _⟩ := (origin.modesAgree environment).warned first rest heard
        exact ⟨problem, raised⟩

theorem Payload.Reorders.fits_iff {before after : Payload} (reorders : Payload.Reorders before after)
    (soundBefore : before.Sound) (soundAfter : after.Sound) (environment : Environment) :
    Fits environment after ↔ Fits environment before := by
  have each := fun field => fits_chosen soundBefore soundAfter
    (reorders.sameEntry soundBefore soundAfter field) (rfl : said (variableOf environment field) = _)
  constructor
  · rintro ⟨known, fits⟩
    exact ⟨reorders.known_iff.mp known, fun field => (each field).mp (fits field)⟩
  · rintro ⟨known, fits⟩
    exact ⟨reorders.known_iff.mpr known, fun field => (each field).mpr (fits field)⟩

/-- A field is the same in the settings of two mappings if they have the same for it. -/
theorem Taken.same {before after : Payload} {old new : Environment} {settings others : Settings}
    (taken : Taken old before settings) (otherTaken : Taken new after others) (sound : before.Sound)
    (otherSound : after.Sound) {field : Field} (entry : Payload.SameEntry before after field)
    (unchanged : said (variableOf new field) = said (variableOf old field))
    (settled : Settled old before field) (otherSettled : Settled new after field) :
    field.Same others settings := by
  have first := otherTaken field otherSettled
  rw [takingAny_chosen sound otherSound entry unchanged settled otherSettled {}] at first
  exact first.trans (taken field settled).symm

/-! ### Settings stated again -/

theorem level?_level {text level : Text} (named : level? text = some level) : level? level = some level := by
  have fixed : ∀ one ∈ levels, level? one = some one := by decide
  unfold level? at named
  dsimp only at named
  split at named
  · rename_i member
    cases named
    exact fixed _ (List.contains_iff_mem.mp member)
  · contradiction

theorem dotted_dotted (extension : Text) : dotted (dotted extension) = dotted extension := by
  obtain ⟨rest, opened⟩ : ∃ rest, dotted extension = '.' :: rest := by
    unfold dotted
    split <;> exact ⟨_, rfl⟩
  rw [opened]
  rfl

theorem Resolved.level {environment : Environment} {payload : Payload} {settings : Settings}
    (resolved : Resolved environment payload settings) :
    level? settings.logLevel = some settings.logLevel := by
  rw [resolved.logLevel]
  cases found : (((said environment.logLevel).or
      ((payload.value? .logLevel).map Value.plainText)).bind level?) with
  | none => decide
  | some level =>
      obtain ⟨text, _, named⟩ := Option.bind_eq_some_iff.mp found
      exact level?_level named

theorem Resolved.dotted {environment : Environment} {payload : Payload} {settings : Settings}
    (resolved : Resolved environment payload settings) :
    settings.scriptExtensions.map dotted = settings.scriptExtensions := by
  rw [resolved.scriptExtensions]
  cases (payload.value? .scriptExtensions).bind Value.texts? with
  | none => decide
  | some extensions => simp [dotted_dotted]

/-- A mapping of the four fields of settings. -/
structure Restates (payload : Payload) (settings : Settings) : Prop where
  known : ∀ entry ∈ payload.entries, (Field.ofKey? entry.1).isSome
  logLevel : payload.value? .logLevel = some (.atom (.text settings.logLevel))
  outputDirectory : payload.value? .outputDirectory = some (.atom (.text settings.outputDirectory))
  jsonIndent : payload.value? .jsonIndent = some (.atom (.int settings.jsonIndent))
  scriptExtensions : payload.value? .scriptExtensions =
    some (.list (settings.scriptExtensions.map fun extension => .atom (.text extension)))

theorem texts?_list (texts : List Text) :
    (Value.list (texts.map fun text => .atom (.text text))).texts? = some texts := by
  rw [Value.texts?]
  induction texts with
  | nil => rfl
  | cons first rest ih => simp [List.mapM_cons, Value.text?, ih]

theorem Restates.apart {payload : Payload} {settings : Settings} (restates : Restates payload settings) :
    payload.Apart := by
  intro item found holds
  have shown := restates.outputDirectory
  rw [Payload.value?, Option.mem_def.mp found, Option.bind_some] at shown
  cases item with
  | atom content => cases holds
  | unlike mark => cases holds
  | container number => exact absurd (Pool.isAtom_of_container shown) (by simp [Value.isAtom])

section Restating

variable {environment : Environment} {payload : Payload} {settings : Settings}
  (resolved : Resolved environment payload settings) {restated : Payload}
  (restates : Restates restated settings) {new : Environment}

include resolved restates

theorem Resolved.restated_same
    (fewer : ∀ field, said (variableOf new field) = none ∨
      said (variableOf new field) = said (variableOf environment field)) (field : Field) :
    field.Same settings (takingAny {} field (chosen new restated field)) := by
  have kept : ∀ text, said (variableOf new field) = some text → said (variableOf environment field) = some text := by
    intro text heard
    rcases fewer field with silent | same
    · rw [silent] at heard
      contradiction
    · exact same.symm.trans heard
  cases field with
  | logLevel =>
      rw [Field.Same, chosen, restates.logLevel]
      cases heard : said (variableOf new .logLevel) with
      | none => exact (congrArg (Option.getD · _) resolved.level).symm
      | some text =>
          rw [resolved.logLevel, show said environment.logLevel = some text from kept text heard]
          rfl
  | outputDirectory =>
      rw [Field.Same, chosen, restates.outputDirectory]
      cases heard : said (variableOf new .outputDirectory) with
      | none => rfl
      | some text =>
          have spoken : said environment.outputDirectory = some text := kept text heard
          rw [resolved.outputDirectory (by simp [spoken]), spoken]
          rfl
  | jsonIndent =>
      rw [show chosen new restated .jsonIndent = restated.value? .jsonIndent from rfl, restates.jsonIndent]
      rfl
  | scriptExtensions =>
      rw [show chosen new restated .scriptExtensions = restated.value? .scriptExtensions from rfl,
        restates.scriptExtensions]
      simp [Field.Same, takingAny, taking, texts?_list, resolved.dotted]

theorem Resolved.restated_fits (silent : said new.logLevel = none) : Fits new restated := by
  refine ⟨restates.known, ?_⟩
  intro field value found
  cases field with
  | logLevel =>
      rw [chosen, variableOf, silent, restates.logLevel] at found
      cases found
      exact congrArg Option.isSome resolved.level
  | outputDirectory => rfl
  | jsonIndent =>
      rw [show chosen new restated .jsonIndent = restated.value? .jsonIndent from rfl, restates.jsonIndent] at found
      cases found
      rfl
  | scriptExtensions =>
      rw [show chosen new restated .scriptExtensions = restated.value? .scriptExtensions from rfl,
        restates.scriptExtensions] at found
      cases found
      rw [Field.fits, texts?_list]
      rfl

end Restating

/-- What can be said of the settings that lenient loading gives for a mapping. -/
structure Fieldwise (origin : Origin) (payload : Payload) (environment : Environment) (settings : Settings) :
    Prop where
  loaded : (origin.load environment false).1 = .ok settings
  resolved : Resolved environment payload settings
  refused : origin.Refuses environment ↔ ¬ Fits environment payload
  unmoved : ∀ (other : Origin) (changed : Payload) (new : Environment), other.Gives changed → changed.Sound →
    ∃ others, (other.load new false).1 = .ok others ∧
      ∀ field, Payload.SameEntry payload changed field →
        said (variableOf new field) = said (variableOf environment field) →
        Settled environment payload field → Settled new changed field → field.Same others settings
  reordered : ∀ (other : Origin) (turned : Payload), other.Gives turned → turned.Sound →
    Payload.Reorders payload turned →
    (∃ others, (other.load environment false).1 = .ok others ∧
      ∀ field, Settled environment payload field → Settled environment turned field →
        field.Same others settings) ∧
    (other.Refuses environment ↔ origin.Refuses environment)
  restated : ∀ (other : Origin) (stated : Payload) (new : Environment), other.Gives stated → stated.Sound →
    Restates stated settings →
    (∀ field, said (variableOf new field) = none ∨
      said (variableOf new field) = said (variableOf environment field)) →
    (other.load new false).1 = .ok settings ∧
      (said new.logLevel = none →
        (other.load new false).warnings = [] ∧ (other.load new true).1 = .ok settings)

/-- Lenient loading gives settings for every mapping with distinct keys that can be shown, and each field
comes from its own variable, else from its own entry, else it is the default; an output directory that
holds the mapping itself is left open. Other entries and variables do not matter to a field, nor does the
order of the entries, also not to strict loading. The settings are loaded again from their four fields,
with the same environment or with less of it. -/
theorem load_fieldwise {origin : Origin} {payload : Payload} (gives : origin.Gives payload)
    (sound : payload.Sound) (environment : Environment) :
    ∃ settings, Fieldwise origin payload environment settings := by
  obtain ⟨settings, loaded, taken, _⟩ := load_lenient gives sound environment
  refine ⟨settings, loaded, taken.resolved, refuses_iff gives sound environment, ?_, ?_, ?_⟩
  · intro other changed new otherGives otherSound
    obtain ⟨others, otherLoaded, otherTaken, _⟩ := load_lenient otherGives otherSound new
    refine ⟨others, otherLoaded, ?_⟩
    intro field entry unchanged settled otherSettled
    exact taken.same otherTaken sound otherSound entry unchanged settled otherSettled
  · intro other turned otherGives otherSound reorders
    constructor
    · obtain ⟨others, otherLoaded, otherTaken, _⟩ := load_lenient otherGives otherSound environment
      refine ⟨others, otherLoaded, ?_⟩
      intro field settled otherSettled
      exact taken.same otherTaken sound otherSound (reorders.sameEntry sound otherSound field) rfl settled
        otherSettled
    · rw [refuses_iff otherGives otherSound, refuses_iff gives sound, reorders.fits_iff sound otherSound]
  · intro other stated new otherGives otherSound restates fewer
    obtain ⟨others, otherLoaded, otherTaken, silent⟩ := load_lenient otherGives otherSound new
    have equal : others = settings := by
      apply Field.Same.eq_of_all
      intro field
      have settled : Settled new stated field := fun _ => .inr restates.apart
      exact (otherTaken field settled).trans (taken.resolved.restated_same restates fewer field).symm
    subst equal
    refine ⟨otherLoaded, fun unsaid => ?_⟩
    have fits := taken.resolved.restated_fits restates unsaid
    exact ⟨silent.mpr fits, (load_strict otherGives otherSound fits).trans otherLoaded⟩

/-! ### A file, the same file turned round, and its settings stated again -/

section Shelf

deriving instance DecidableEq for Attempt

def Origin.file (name text : String) : Origin where
  volume := fileVolume name.toList text.toList
  path := name.toList

theorem Origin.gives_file {name text : String} {payload : Payload} (known : name = "s.json" ∨ name = "s.yml")
    (decoded : decodePayload {} false name.toList (Text.unifyNewlines text.toList) = .done payload) :
    (Origin.file name text).Gives payload := by
  have named : name.toList.isEmpty = false := by
    rcases known with rfl | rfl <;> rfl
  have read := readPayload_fileVolume (known.imp (congrArg String.toList) (congrArg String.toList)) text.toList
    {} false
  rw [Gives, Origin.payload, ← decoded, ← read]
  exact if_neg (by simp [file, named])

def shelf (extensions : List Text) (entries : Entries) : Payload where
  pool := { containers := #[.list (extensions.map .text), .mapping entries] }
  number := 1

/-- An entry that can stand in the mapping: its key is a text, and its value is the list or is short. -/
def Shelved (entry : Item × Item) : Prop :=
  (∃ key, entry.1 = .text key) ∧
    (entry.2 = .container 0 ∨ ∃ content : Atom, entry.2 = .atom content ∧ content.isOverlong = false)

theorem shelved_text (key value : Text) : Shelved (.text key, .text value) :=
  ⟨⟨key, rfl⟩, .inr ⟨.text value, rfl, rfl⟩⟩

theorem shelved_list (key : Text) : Shelved (.text key, .container 0) :=
  ⟨⟨key, rfl⟩, .inl rfl⟩

theorem shelved_int (key : Text) {n : Int} (small : n.natAbs < 10) : Shelved (.text key, .atom (.int n)) := by
  -- The limit is kept out of sight, so that the power is not worked out.
  have short : ∀ limit, 0 < limit → decide (Nat.pow 10 limit ≤ n.natAbs) = false := by
    intro limit positive
    have wider : 10 ^ 1 ≤ 10 ^ limit := Nat.pow_le_pow_right (by decide) positive
    exact decide_eq_false (Nat.not_le.mpr (Nat.lt_of_lt_of_le small wider))
  exact ⟨⟨key, rfl⟩, .inr ⟨.int n, rfl, short 4300 (by decide)⟩⟩

theorem shelf_sound {extensions : List Text} {entries : Entries} (distinct : (entries.map Prod.fst).Nodup)
    (shelved : ∀ entry ∈ entries, Shelved entry) : (shelf extensions entries).Sound := by
  refine ⟨rfl, distinct, ?_⟩
  intro entry member
  obtain ⟨⟨key, named⟩, content⟩ := shelved entry member
  constructor
  · rw [named]
    rfl
  · rcases content with listed | ⟨content, same, short⟩
    · rw [listed]
      right
      intro item inside
      obtain ⟨extension, _, rfl⟩ := List.mem_map.mp inside
      rfl
    · rw [same]
      exact short

theorem shelf_reorders {extensions : List Text} {entries others : Entries} (perm : others.Perm entries) :
    Payload.Reorders (shelf extensions entries) (shelf extensions others) := by
  have alike : Pool.AlikeOff 1 (shelf extensions entries).pool (shelf extensions others).pool := by
    intro other different
    match other with
    | 0 => rfl
    | 1 => contradiction
    | n + 2 => rfl
  have shown : (shelf extensions others).shown? = (shelf extensions entries).shown? :=
    Payload.shown?_alikeOff rfl alike rfl rfl
  rw [Payload.Reorders, Payload.parts, Payload.parts, shown]
  exact perm.map _

def tuned : Origin :=
  .file "s.json" "\x7b\"log_level\": \"debug\", \"script_extensions\": [\"sh\"], \"depth\": 1\x7d"

def tunedEntries : Entries :=
  [(.text "log_level".toList, .text "debug".toList), (.text "script_extensions".toList, .container 0),
    (.text "depth".toList, .atom (.int 1))]

def turnedRound : Origin :=
  .file "s.json" "\x7b\"depth\": 1, \"script_extensions\": [\"sh\"], \"log_level\": \"debug\"\x7d"

def tunedSettings : Settings :=
  { logLevel := "DEBUG".toList, outputDirectory := "docs".toList, scriptExtensions := [".sh".toList] }

def statedAgain : Origin :=
  .file "s.json" ("\x7b\"log_level\": \"DEBUG\", \"output_dir\": \"docs\", \"json_indent\": 2, " ++
    "\"script_extensions\": [\".sh\"]\x7d")

def statedEntries : Entries :=
  [(.text "log_level".toList, .text "DEBUG".toList), (.text "output_dir".toList, .text "docs".toList),
    (.text "json_indent".toList, .atom (.int 2)), (.text "script_extensions".toList, .container 0)]

theorem tuned_gives : tuned.Gives (shelf ["sh".toList] tunedEntries) :=
  Origin.gives_file (.inl rfl) (by decide +kernel)

theorem turnedRound_gives : turnedRound.Gives (shelf ["sh".toList] tunedEntries.reverse) :=
  Origin.gives_file (.inl rfl) (by decide +kernel)

theorem statedAgain_gives : statedAgain.Gives (shelf [".sh".toList] statedEntries) :=
  Origin.gives_file (.inl rfl) (by decide +kernel)

theorem tuned_shelved : ∀ entry ∈ tunedEntries, Shelved entry := by
  simp only [tunedEntries, List.forall_mem_cons, List.not_mem_nil, false_imp_iff, implies_true, and_true]
  exact ⟨shelved_text _ _, shelved_list _, shelved_int _ (by decide)⟩

theorem tuned_sound : (shelf ["sh".toList] tunedEntries).Sound :=
  shelf_sound (by decide) tuned_shelved

theorem turnedRound_sound : (shelf ["sh".toList] tunedEntries.reverse).Sound :=
  shelf_sound (by decide) fun entry member => tuned_shelved entry (List.mem_reverse.mp member)

theorem stated_sound : (shelf [".sh".toList] statedEntries).Sound := by
  refine shelf_sound (by decide) ?_
  simp only [statedEntries, List.forall_mem_cons, List.not_mem_nil, false_imp_iff, implies_true, and_true]
  exact ⟨shelved_text _ _, shelved_text _ _, shelved_int _ (by decide), shelved_list _⟩

theorem stated_restates : Restates (shelf [".sh".toList] statedEntries) tunedSettings where
  known := by decide
  logLevel := rfl
  outputDirectory := rfl
  jsonIndent := rfl
  scriptExtensions := rfl

theorem tuned_resolved {settings : Settings} (resolved : Resolved { outputDirectory := some "docs".toList }
    (shelf ["sh".toList] tunedEntries) settings) : settings = tunedSettings := by
  apply Field.Same.eq_of_all
  intro field
  cases field with
  | logLevel => exact resolved.logLevel.trans (by decide)
  | outputDirectory => exact (resolved.outputDirectory (.inl rfl)).trans (by decide)
  | jsonIndent => exact resolved.jsonIndent.trans (by decide)
  | scriptExtensions => exact resolved.scriptExtensions.trans (by decide)

end Shelf

theorem load_fieldwise_tuned :
    (tuned.load { outputDirectory := some "docs".toList } false).1 = .ok tunedSettings ∧
      (turnedRound.load { outputDirectory := some "docs".toList } false).1 = .ok tunedSettings ∧
      (statedAgain.load {} true).1 = .ok tunedSettings := by
  obtain ⟨settings, fieldwise⟩ :=
    load_fieldwise tuned_gives tuned_sound { outputDirectory := some "docs".toList }
  obtain rfl := tuned_resolved fieldwise.resolved
  obtain ⟨⟨others, turned, same⟩, _⟩ :=
    fieldwise.reordered _ _ turnedRound_gives turnedRound_sound
      (shelf_reorders tunedEntries.reverse_perm)
  obtain rfl := Field.Same.eq_of_all fun field => same field (fun _ => .inl rfl) fun _ => .inl rfl
  have stated := (fieldwise.restated _ _ {} statedAgain_gives stated_sound stated_restates ?_).2 rfl
  · exact ⟨fieldwise.loaded, turned, stated.2⟩
  · intro field
    left
    cases field <;> rfl

/-! ### A mapping that is its own output directory -/

section OwnDirectory

def enclosed : Origin :=
  .file "s.yml" "&a \x7boutput_dir: *a\x7d\n"

def enclosedPayload : Payload where
  pool := { containers := #[.mapping [(.text "output_dir".toList, .container 0)]] }
  number := 0

theorem enclosed_gives : enclosed.Gives enclosedPayload :=
  Origin.gives_file (.inr rfl) (by decide +kernel)

theorem enclosed_sound : enclosedPayload.Sound := by
  refine ⟨rfl, by decide, ?_⟩
  intro entry member
  obtain rfl := List.mem_singleton.mp member
  refine ⟨rfl, .inr ?_⟩
  intro item inside
  rcases List.mem_cons.mp inside with rfl | last
  · rfl
  · obtain rfl := List.mem_singleton.mp last
    exact .inl (by simp)

end OwnDirectory

/-- An output directory that holds the mapping shows the level that the environment puts into it, which is
not in the file. -/
theorem load_shows_other_variable :
    enclosed.Gives enclosedPayload ∧ enclosedPayload.Sound ∧
      (enclosedPayload.value? .outputDirectory).map Value.plainText =
        some "\x7b'output_dir': \x7b...\x7d\x7d".toList ∧
      ∃ settings, (enclosed.load { logLevel := some "DEBUG".toList } false).1 = .ok settings ∧
        settings.outputDirectory = "\x7b'output_dir': \x7b...\x7d, 'log_level': 'DEBUG'\x7d".toList := by
  refine ⟨enclosed_gives, enclosed_sound, by decide +kernel, ?_⟩
  refine ⟨{ logLevel := "DEBUG".toList,
            outputDirectory := "\x7b'output_dir': \x7b...\x7d, 'log_level': 'DEBUG'\x7d".toList }, ?_, rfl⟩
  rw [Origin.load, loadWith, loadQuietlyWith, Option.getD_some, enclosed_gives.resolve]
  decide +kernel

end ScriptDocs.Settings
