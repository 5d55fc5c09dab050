import ScriptDocs.Proofs.Extraction.Appending

/-!
Reading on after an earlier part of a script is reading afresh, with what the earlier part gave put in
front. A state of the fresh reading is placed behind an earlier state, under other line numbers, and
every line takes the placed state where it takes the fresh one. The earlier part decides nothing but
whether the about text is still open; line numbers decide nothing at all.
-/

namespace ScriptDocs

/-- The entity on another line. -/
def Variable.renumbered (number : Nat → Nat) (entity : Variable) : Variable :=
  { entity with line := number entity.line }

/-- The function on another line. -/
def Method.renumbered (number : Nat → Nat) (method : Method) : Method :=
  { method with line := number method.line }

/-- The document with its entities on other lines. -/
def Document.renumbered (number : Nat → Nat) (document : Document) : Document :=
  { document with
    constants := document.constants.map (Variable.renumbered number)
    vars := document.vars.map (Variable.renumbered number)
    methods := document.methods.map (Method.renumbered number) }

namespace Extraction

def Note.renumbered (number : Nat → Nat) : Note → Note
  | .orphaned line => .orphaned (number line)
  | .privateMethod name line => .privateMethod name (number line)
  | .bareMethod name => .bareMethod name
  | .afterMethods kind name => .afterMethods kind name
  | .privateVariable kind name line => .privateVariable kind name (number line)
  | .bareVariable kind name => .bareVariable kind name

def OpenValue.renumbered (number : Nat → Nat) (value : OpenValue) : OpenValue :=
  { value with entity := value.entity.renumbered number }

namespace State

/-- The state that a fresh reading comes to when it follows an earlier one: the entities stand behind
those of the earlier state, and the about text is that of the first reading that closed a block. -/
def placed (earlier : State) (number : Nat → Nat) (fresh : State) : State where
  lineNumber := number fresh.lineNumber
  pending :=
    { fresh.pending with
      aboutClaimed := earlier.pending.aboutClaimed || fresh.pending.aboutClaimed }
  openValue := fresh.openValue.map (OpenValue.renumbered number)
  document :=
    { title := earlier.document.title
      about := if earlier.pending.aboutClaimed then earlier.document.about else fresh.document.about
      constants := earlier.document.constants ++
        fresh.document.constants.map (Variable.renumbered number)
      vars := earlier.document.vars ++ fresh.document.vars.map (Variable.renumbered number)
      methods := earlier.document.methods ++ fresh.document.methods.map (Method.renumbered number) }
  notes := earlier.notes ++ fresh.notes.map (Note.renumbered number)

variable (earlier : State) (number : Nat → Nat) (state : State)

theorem note_placed (note : Note) :
    (placed earlier number state).note (note.renumbered number) =
      placed earlier number (state.note note) := by
  simp [placed, State.note]

theorem addVariable_placed (entity : Variable) (kind : Script.EntityKind) :
    (placed earlier number state).addVariable (entity.renumbered number) kind =
      placed earlier number (state.addVariable entity kind) := by
  unfold addVariable Document.addVariable
  have sameDesc : (entity.renumbered number).desc = entity.desc := rfl
  rw [sameDesc]
  by_cases bare : entity.desc.isEmpty
  · simp only [bare, if_true]
    exact note_placed earlier number state (.bareVariable kind entity.name)
  · cases kind == .constant with
    | true => simp [bare, placed]
    | false => simp [bare, placed]

theorem addMethod_placed (method : Method) :
    (placed earlier number state).addMethod (method.renumbered number) =
      placed earlier number (state.addMethod method) := by
  unfold addMethod Document.addMethod
  have sameDesc : (method.renumbered number).desc = method.desc := rfl
  rw [sameDesc]
  by_cases bare : method.desc.isEmpty
  · simp [bare, placed, State.note, Note.renumbered, Method.renumbered]
  · simp [bare, placed]

theorem declareMethod_placed (name : Text) (block : List Text) :
    (placed earlier number state).declareMethod name block =
      placed earlier number (state.declareMethod name block) := by
  unfold declareMethod
  cases Comment.readMethod name block with
  | none => exact note_placed earlier number state (.privateMethod name state.lineNumber)
  | some method => exact addMethod_placed earlier number state { method with line := state.lineNumber }

theorem declareVariable_placed (kind : Script.EntityKind) (name value : Text) (block : List Text) :
    (placed earlier number state).declareVariable kind name value block =
      placed earlier number (state.declareVariable kind name value block) := by
  unfold declareVariable
  have sameSeen : (placed earlier number state).pending.methodsSeen = state.pending.methodsSeen := rfl
  rw [sameSeen]
  cases state.pending.methodsSeen with
  | true => exact note_placed earlier number state (.afterMethods kind name)
  | false =>
      cases Comment.readVariable name value block with
      | none => exact note_placed earlier number state (.privateVariable kind name state.lineNumber)
      | some found =>
          simp only [Bool.false_eq_true, if_false]
          split
          · rfl
          · exact addVariable_placed earlier number state { found with line := state.lineNumber } kind

theorem take_placed :
    (placed earlier number state).pending.take.1 = state.pending.take.1 ∧
      { placed earlier number state with pending := (placed earlier number state).pending.take.2 } =
        placed earlier number { state with pending := state.pending.take.2 } := by
  refine ⟨rfl, ?_⟩
  simp [placed, Comment.Pending.take, Bool.or_assoc]

theorem codeLine_placed (line : Text) :
    (placed earlier number state).codeLine line = placed earlier number (state.codeLine line) := by
  unfold codeLine
  obtain ⟨sameBlock, taken⟩ := take_placed earlier number state
  dsimp only
  rw [sameBlock, taken]
  split
  · rfl
  · cases Script.classify line with
    | unrecognized =>
        exact note_placed earlier number { state with pending := state.pending.take.2 }
          (.orphaned state.lineNumber)
    | method name => exact declareMethod_placed earlier number _ name _
    | «variable» name value => exact declareVariable_placed earlier number _ _ name value _
    | constant name value => exact declareVariable_placed earlier number _ _ name value _

theorem continueValue_placed (value : OpenValue) (line : Text) :
    (placed earlier number state).continueValue (value.renumbered number) line =
      placed earlier number (state.continueValue value line) := by
  unfold continueValue
  dsimp only
  split
  · exact addVariable_placed earlier number { state with openValue := none }
      { value.entity with value := value.entity.value ++ line } value.kind
  · rfl

theorem finish_placed : (placed earlier number state).finish = placed earlier number state.finish := by
  unfold finish
  cases opened : state.openValue with
  | none => simp [placed, opened]
  | some value =>
      have placedOpen : (placed earlier number state).openValue = some (value.renumbered number) := by
        simp [placed, opened]
      rw [placedOpen]
      exact addVariable_placed earlier number { state with openValue := none } value.entity value.kind

variable {earlier number state}

/-- Where the earlier state has closed no block, it has no entity either, so both readings find the
about text open or neither does. -/
theorem blankLine_placed (first : ClaimsFirst earlier) :
    (placed earlier number state).blankLine = placed earlier number state.blankLine := by
  unfold blankLine
  obtain ⟨sameBlock, taken⟩ := take_placed earlier number state
  dsimp only
  rw [sameBlock, taken]
  cases claimed : earlier.pending.aboutClaimed with
  | true =>
      have stillClaimed : (placed earlier number state).pending.aboutClaimed = true := by
        simp [placed, claimed]
      rw [stillClaimed]
      simp only [Bool.not_true, Bool.false_and, Bool.and_false, Bool.false_eq_true, if_false]
      split
      · obtain ⟨about, set, _⟩ := setAbout_eq state.document state.pending.take.1
        simp [placed, claimed, set]
      · rfl
  | false =>
      have nothing : earlier.document.isValid = false := by
        cases valid : earlier.document.isValid with
        | false => rfl
        | true => simpa [claimed] using first.entities valid
      have sameClaimed : (placed earlier number state).pending.aboutClaimed =
          state.pending.aboutClaimed := by simp [placed, claimed]
      have sameValid : (placed earlier number state).document.isValid = state.document.isValid := by
        simp only [Document.isValid, Bool.not_eq_false', Bool.and_eq_true, List.isEmpty_iff] at nothing
        simp [placed, Document.isValid, nothing]
      rw [sameClaimed, sameValid]
      split
      · cases cleaned : Comment.clean state.pending.take.1 with
        | nil =>
            simp only [Document.setAbout, cleaned]
            exact taken
        | cons line rest => simp [Document.setAbout, cleaned, placed, claimed]
      · rfl

theorem scanLine_placed (first : ClaimsFirst earlier) (line : Text) :
    (placed earlier number state).scanLine line = placed earlier number (state.scanLine line) := by
  unfold scanLine
  cases Script.lineKind line with
  | lintDirective => rfl
  | blank => exact blankLine_placed first
  | bareMarker => rfl
  | comment => rfl
  | code => exact codeLine_placed earlier number state line

/-- A line past the first takes a placed state where it takes the fresh one. The line before it may
have any number, as long as this line gets the one that belongs to it. -/
theorem step_placed (first : ClaimsFirst earlier) (past : state.lineNumber ≠ 0) {before : Nat}
    (beforePast : before ≠ 0) (next : number (state.lineNumber + 1) = before + 1) (line : Text) :
    { placed earlier number state with lineNumber := before }.step line =
      placed earlier number (state.step line) := by
  have moved : { placed earlier number state with lineNumber := before + 1 } =
      placed earlier number { state with lineNumber := state.lineNumber + 1 } := by
    simp [placed, next]
  cases opened : state.openValue with
  | some value =>
      have placedOpen : { placed earlier number state with lineNumber := before }.openValue =
          some (value.renumbered number) := by
        simp [placed, opened]
      rw [step_open opened, step_open placedOpen, ← continueValue_placed, ← moved]
  | none =>
      have placedClosed : { placed earlier number state with lineNumber := before }.openValue = none := by
        simp [placed, opened]
      rw [step_scan opened past, step_scan placedClosed beforePast, ← scanLine_placed first, ← moved]

/-- A whole reading, line by line: past the first line numbers go up by one. -/
theorem foldl_placed (first : ClaimsFirst earlier) (past : state.lineNumber ≠ 0) {before : Nat}
    (beforePast : before ≠ 0) (next : number (state.lineNumber + 1) = before + 1)
    (consecutive : ∀ n, state.lineNumber < n → number (n + 1) = number n + 1) (lines : List Text) :
    ∃ last, lines.foldl step { placed earlier number state with lineNumber := before } =
      { placed earlier number (lines.foldl step state) with lineNumber := last } := by
  induction lines generalizing state before with
  | nil => exact ⟨before, rfl⟩
  | cons line rest ih =>
      have numbered := step_lineNumber state line
      rw [List.foldl_cons, step_placed first past beforePast next, List.foldl_cons]
      have pastNext : (state.step line).lineNumber ≠ 0 := by omega
      have beforeNext : number (state.step line).lineNumber ≠ 0 := by
        rw [numbered, next]
        exact Nat.succ_ne_zero before
      have nextNumber : number ((state.step line).lineNumber + 1) =
          number (state.step line).lineNumber + 1 := consecutive _ (by omega)
      exact ih pastNext beforeNext nextNumber (fun n above => consecutive n (by omega))

/-- The document of a reading that follows an earlier one. -/
theorem finish_foldl_placed (first : ClaimsFirst earlier) (past : state.lineNumber ≠ 0) {before : Nat}
    (beforePast : before ≠ 0) (next : number (state.lineNumber + 1) = before + 1)
    (consecutive : ∀ n, state.lineNumber < n → number (n + 1) = number n + 1) (lines : List Text) :
    (lines.foldl step { placed earlier number state with lineNumber := before }).finish.document =
      (placed earlier number (lines.foldl step state).finish).document := by
  obtain ⟨last, placedAll⟩ := foldl_placed first past beforePast next consecutive lines
  rw [placedAll, finish_document, ← finish_placed, finish_document]
  rfl

theorem finish_foldl_placed_offset (first : ClaimsFirst earlier) (past : state.lineNumber ≠ 0)
    (offset : Nat) (lines : List Text) :
    (lines.foldl step (placed earlier (· + offset) state)).finish.document =
      (placed earlier (· + offset) (lines.foldl step state).finish).document := by
  have beforePast : state.lineNumber + offset ≠ 0 := by omega
  have next : (state.lineNumber + 1) + offset = (state.lineNumber + offset) + 1 := by omega
  exact finish_foldl_placed first past beforePast next (fun n _ => Nat.add_right_comm n 1 offset) lines

/-- Whether any comment was collected so far. -/
def hasCollected (state : State) : Bool :=
  state.pending.aboutClaimed || state.pending.buffer.isSome

theorem step_hasCollected (state : State) (line : Text) :
    (state.step line).hasCollected =
      (state.hasCollected || (state.openValue.isNone && state.lineNumber != 0 &&
        kindOf line == .comment)) := by
  cases opened : state.openValue with
  | some value =>
      obtain ⟨_, _, _, continued, _, _⟩ :=
        continueValue_frame { state with lineNumber := state.lineNumber + 1 } value line
      rw [step_open opened, continued]
      simp [hasCollected]
  | none =>
      by_cases first : state.lineNumber = 0
      · rw [step_first opened first]
        simp [hasCollected, first]
      · rw [step_scan opened first, scanLine]
        cases kind : Script.lineKind (Text.trimLeft ' ' line) with
        | lintDirective => simp [hasCollected, kindOf, kind]
        | blank =>
            obtain ⟨_, closes, _⟩ := blankLine_eq { state with lineNumber := state.lineNumber + 1 }
            rw [closes]
            simp [hasCollected, Comment.Pending.take, kindOf, kind]
        | bareMarker => simp [hasCollected, Comment.Pending.appendBreak, kindOf, kind]
        | comment => simp [hasCollected, Comment.Pending.append, kindOf, kind, first]
        | code =>
            rcases codeLine_cases { state with lineNumber := state.lineNumber + 1 }
                (Text.trimLeft ' ' line) with ⟨_, coded⟩ | ⟨_, _, _, coded⟩ | ⟨_, coded⟩ <;>
              rw [coded] <;> simp [hasCollected, Comment.Pending.take, kindOf, kind]

end State

/-- Whether a comment stands on one of the first lines of a script, below the first one and outside
of values over several lines. -/
def CommentWithin (lines : List Text) (k : Nat) : Prop :=
  ∃ n, 2 ≤ n ∧ n ≤ k ∧ swallowed lines n = false ∧ kindAt lines n = .comment

theorem hasCollected_iff (title : Text) {lines : List Text} {k : Nat} (within : k ≤ lines.length) :
    (stateAfter title lines k).hasCollected = true ↔ CommentWithin lines k := by
  induction k with
  | zero =>
      constructor
      · intro collected
        cases collected
      · rintro ⟨n, past, before, _⟩
        omega
  | succ k ih =>
      have before := ih (Nat.le_of_succ_le within)
      have tracks : Tracks lines k (stateAfter title lines k) :=
        Tracks.after_take title lines k (Nat.le_of_succ_le within)
      have reached : (stateAfter title lines k).openValue.isNone = !swallowed lines (k + 1) := by
        rw [← tracks.swallowing, Option.not_isSome]
      have here : kindOf (lineAt lines (k + 1)) = kindAt lines (k + 1) := rfl
      rw [stateAfter_succ title within, State.step_hasCollected, reached, tracks.lineNumber, here]
      simp only [Bool.or_eq_true, Bool.and_eq_true, Bool.not_eq_true', bne_iff_ne, ne_eq, beq_iff_eq, before]
      constructor
      · rintro (⟨n, past, above, holds⟩ | ⟨⟨unswallowed, past⟩, comment⟩)
        · exact ⟨n, past, by omega, holds⟩
        · exact ⟨k + 1, by omega, Nat.le_refl _, unswallowed, comment⟩
      · rintro ⟨n, past, above, unswallowed, comment⟩
        rcases Nat.lt_or_eq_of_le above with earlier | rfl
        · exact .inl ⟨n, past, by omega, unswallowed, comment⟩
        · exact .inr ⟨⟨unswallowed, by omega⟩, comment⟩

/-- A script that can be cut off below its last line: that line is empty and scanned, and no function
was documented above it. -/
structure Separable (lines : List Text) : Prop where
  blank : kindAt lines lines.length = .blank
  reached : swallowed lines lines.length = false
  noMethods : ∀ n ≤ lines.length, documented lines n = true → (declarationAt lines n).kind ≠ .method

/-- The state below the first line of a script. -/
def belowFirst (title : Text) : State :=
  { State.start title with lineNumber := 1 }

/-- A state without a block, an open value or a function is all earlier part: a fresh reading placed
behind it starts where it stands. -/
theorem placed_belowFirst {state : State} (first : ClaimsFirst state) (title : Text) {offset : Nat}
    (number : state.lineNumber = 1 + offset) (closed : state.openValue = none)
    (noBlock : state.pending.buffer = none) (unseen : state.pending.methodsSeen = false) :
    State.placed state (· + offset) (belowFirst title) = state := by
  have silent : state.pending.aboutClaimed = false → state.document.about = none := by
    intro unclaimed
    cases set : state.document.about with
    | none => rfl
    | some about => simpa [unclaimed] using first.about (by simp [set])
  obtain ⟨lineNumber, ⟨buffer, methodsSeen, aboutClaimed⟩, openValue, document, notes⟩ := state
  subst number closed noBlock unseen
  cases aboutClaimed with
  | true => simp [State.placed, belowFirst, State.start]
  | false => simp [State.placed, belowFirst, State.start, ← silent rfl]

namespace Separable

variable {lines : List Text} (separable : Separable lines) (title : Text)

include separable

theorem closed : endsOpen lines = false := by
  have undocumented : documented lines lines.length = false := by
    cases documents : documented lines lines.length with
    | false => rfl
    | true => simpa [separable.blank] using ((documented_iff lines lines.length).mp documents).2.1
  rw [endsOpen, swallowed_succ, opensValue_undocumented undocumented, separable.reached]
  rfl

theorem noBlock : (stateAfter title lines lines.length).pending.buffer = none := by
  have tracks := Tracks.after_take title lines lines.length (Nat.le_refl _)
  have buffer := tracks.buffer
  rw [attachedBlock_succ_closed (.inr (.inr (.inl separable.blank)))] at buffer
  exact buffer

theorem methodsUnseen : (stateAfter title lines lines.length).pending.methodsSeen = false := by
  have tracks := Tracks.after_take title lines lines.length (Nat.le_refl _)
  refine tracks.methodsSeen.trans ?_
  rw [← Bool.not_eq_true, afterMethods_iff]
  rintro ⟨above, below, documents, method⟩
  exact separable.noMethods above (by omega) documents method

theorem claimed_iff :
    (stateAfter title lines lines.length).pending.aboutClaimed = true ↔
      CommentWithin lines lines.length := by
  rw [← hasCollected_iff title (Nat.le_refl _), State.hasCollected, separable.noBlock title]
  simp

/-- The lines below such a script are read as if they stood below a first line. -/
theorem run_append (filled : lines ≠ []) (more : List Text) :
    (run title (lines ++ more)).document =
      (State.placed (stateAfter title lines lines.length) (· + (lines.length - 1))
        (run title ([] :: more))).document := by
  have first := claimsFirst_stateAfter title lines lines.length (Nat.le_refl _)
  have tracks := Tracks.after_take title lines lines.length (Nat.le_refl _)
  have positive := List.length_pos_iff.mpr filled
  have number : (stateAfter title lines lines.length).lineNumber = 1 + (lines.length - 1) := by
    have counted : (stateAfter title lines lines.length).lineNumber = lines.length := tracks.lineNumber
    omega
  have start := placed_belowFirst first title number (openValue_of_not_endsOpen title separable.closed)
    (separable.noBlock title) (separable.methodsUnseen title)
  have past : (belowFirst title).lineNumber ≠ 0 := Nat.one_ne_zero
  have resumed := State.finish_foldl_placed_offset first past (lines.length - 1) more
  rw [start] at resumed
  rw [Extraction.run_append, resumed]
  rfl

end Separable

/-- A script goes on below an empty line, before all functions, as a script of its own would: its
entities come behind those above, on later lines, and it says what the script is about only if no
comment above does. -/
theorem extract_append_separable (title : Text) {text : Text} (ended : text.getLast? = some '\n')
    (separable : Separable (Script.linesOf text)) (more : Text) :
    (extract title (text ++ more)).1.constants = (extract title text).1.constants ++
      (extract title ('\n' :: more)).1.constants.map
        (Variable.renumbered (· + ((Script.linesOf text).length - 1))) ∧
    (extract title (text ++ more)).1.vars = (extract title text).1.vars ++
      (extract title ('\n' :: more)).1.vars.map
        (Variable.renumbered (· + ((Script.linesOf text).length - 1))) ∧
    (extract title (text ++ more)).1.methods = (extract title text).1.methods ++
      (extract title ('\n' :: more)).1.methods.map
        (Method.renumbered (· + ((Script.linesOf text).length - 1))) ∧
    (CommentWithin (Script.linesOf text) (Script.linesOf text).length →
      (extract title (text ++ more)).1.about = (extract title text).1.about) ∧
    (¬ CommentWithin (Script.linesOf text) (Script.linesOf text).length →
      (extract title (text ++ more)).1.about = (extract title ('\n' :: more)).1.about) := by
  have below : Script.linesOf ('\n' :: more) = [] :: Script.linesOf more :=
    Script.linesOf_append (show ['\n'].getLast? = some '\n' from rfl) more
  have whole := separable.run_append title (Script.linesOf_ne_nil ended) (Script.linesOf more)
  have claimed := separable.claimed_iff title
  simp only [extract, Script.linesOf_append ended, below, run_of_not_endsOpen title separable.closed, whole]
  refine ⟨rfl, rfl, rfl, ?_, ?_⟩
  · intro comment
    simp [State.placed, claimed.mpr comment]
  · intro noComment
    rw [← claimed, Bool.not_eq_true] at noComment
    simp [State.placed, noComment]

/-- A constant over two lines, a comment that documents nothing, and the empty line below them. -/
def depotText : Text :=
  "#!/bin/sh\n# Places\nDEPOT=\"a\n\n# b\"\n# Unused\n\n".toList

def depotMore : Text :=
  "# Way there\n\n# Unit\nunit=km\n# Goes.\ngo() (\n".toList

theorem separable_depot : Separable (Script.linesOf depotText) where
  blank := by decide +kernel
  reached := by
    have length : (Script.linesOf depotText).length = 6 + 1 := by decide +kernel
    rw [length, swallowed_eq_run [] (by omega)]
    decide +kernel
  noMethods := by
    intro n within documents method
    have tracks := Tracks.after_take [] (Script.linesOf depotText) _ (Nat.le_refl _)
    have after := (afterMethods_iff _ _).mpr ⟨n, Nat.lt_succ_of_le within, documents, method⟩
    rw [← tracks.methodsSeen] at after
    exact absurd after (by decide +kernel)

theorem extract_append_depot :
    Separable (Script.linesOf depotText) ∧
    (extract [] (depotText ++ depotMore)).1.vars = (extract [] depotText).1.vars ++
      (extract [] ('\n' :: depotMore)).1.vars.map (Variable.renumbered (· + 6)) ∧
    (extract [] (depotText ++ depotMore)).1.methods.map Method.line = [13] ∧
    CommentWithin (Script.linesOf depotText) (Script.linesOf depotText).length ∧
    (extract [] (depotText ++ depotMore)).1.about = none := by
  have length : (Script.linesOf depotText).length = 7 := by decide +kernel
  obtain ⟨_, vars, methods, about, _⟩ :=
    extract_append_separable [] (by decide) separable_depot depotMore
  have comment : CommentWithin (Script.linesOf depotText) (Script.linesOf depotText).length := by
    rw [← separable_depot.claimed_iff []]
    decide +kernel
  rw [length] at vars methods
  refine ⟨separable_depot, vars, ?_, comment, (about comment).trans (by decide +kernel)⟩
  rw [methods]
  decide +kernel

end Extraction

end ScriptDocs
