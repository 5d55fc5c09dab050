import ScriptDocs.Proofs.Extraction.About

namespace ScriptDocs.Extraction

/-!
Appending to a script never disturbs what was already extracted. No line takes an entity out of the
document or changes one that is in it, and an about text stays as it was set. What is appended can
therefore only matter for a value that the script leaves open, and for nothing else above it.
-/

/-- What is in a document stays in another: its title, and its entities before any others. -/
structure Keeps (before after : Document) : Prop where
  title : after.title = before.title
  constants : before.constants <+: after.constants
  vars : before.vars <+: after.vars
  methods : before.methods <+: after.methods

namespace Keeps

variable {before middle after : Document}

theorem refl (document : Document) : Keeps document document :=
  ⟨rfl, List.prefix_rfl, List.prefix_rfl, List.prefix_rfl⟩

theorem trans (first : Keeps before middle) (second : Keeps middle after) : Keeps before after where
  title := second.title.trans first.title
  constants := first.constants.trans second.constants
  vars := first.vars.trans second.vars
  methods := first.methods.trans second.methods

theorem setAbout (document : Document) (about : Option (List Text)) :
    Keeps document { document with about } :=
  ⟨rfl, List.prefix_rfl, List.prefix_rfl, List.prefix_rfl⟩

theorem withEntity (document : Document) (entity : Entity) :
    Keeps document (Extraction.withEntity document entity) := by
  unfold Extraction.withEntity
  split
  · exact refl document
  · cases entity with
    | constant entity => exact ⟨rfl, List.prefix_append _ _, List.prefix_rfl, List.prefix_rfl⟩
    | var entity => exact ⟨rfl, List.prefix_rfl, List.prefix_append _ _, List.prefix_rfl⟩
    | method entity => exact ⟨rfl, List.prefix_rfl, List.prefix_rfl, List.prefix_append _ _⟩

end Keeps

namespace State

theorem addVariable_keeps (state : State) (entity : Variable) (kind : Script.EntityKind) :
    Keeps state.document (state.addVariable entity kind).document := by
  obtain ⟨_, added⟩ := addVariable_eq state entity kind
  rw [added]
  exact Keeps.withEntity _ _

theorem continueValue_keeps (state : State) (value : OpenValue) (line : Text) :
    Keeps state.document (state.continueValue value line).document := by
  unfold continueValue
  dsimp only
  split
  · exact addVariable_keeps { state with openValue := none } _ value.kind
  · exact Keeps.refl _

theorem codeLine_keeps (state : State) (line : Text) :
    Keeps state.document (state.codeLine line).document := by
  rcases codeLine_cases state line with ⟨_, coded⟩ | ⟨_, _, _, coded⟩ | ⟨_, coded⟩
  · rw [coded]
    exact Keeps.refl _
  · rw [coded]
    exact Keeps.withEntity _ _
  · rw [coded]
    exact Keeps.refl _

theorem blankLine_keeps (state : State) : Keeps state.document state.blankLine.document := by
  obtain ⟨about, closes, _⟩ := blankLine_eq state
  rw [closes]
  exact Keeps.setAbout _ about

theorem step_keeps (state : State) (line : Text) :
    Keeps state.document (state.step line).document := by
  cases opened : state.openValue with
  | some value =>
      rw [step_open opened]
      exact continueValue_keeps { state with lineNumber := state.lineNumber + 1 } value line
  | none =>
      by_cases first : state.lineNumber = 0
      · rw [step_first opened first]
        exact Keeps.refl _
      · rw [step_scan opened first, scanLine]
        cases Script.lineKind (Text.trimLeft ' ' line) with
        | lintDirective => exact Keeps.refl _
        | blank => exact blankLine_keeps { state with lineNumber := state.lineNumber + 1 }
        | bareMarker => exact Keeps.refl _
        | comment => exact Keeps.refl _
        | code => exact codeLine_keeps { state with lineNumber := state.lineNumber + 1 } _

theorem finish_keeps (state : State) : Keeps state.document state.finish.document := by
  unfold finish
  split
  · rename_i value _
    exact addVariable_keeps { state with openValue := none } value.entity value.kind
  · exact Keeps.refl _

theorem foldl_keeps (state : State) (lines : List Text) :
    Keeps state.document (lines.foldl step state).document := by
  induction lines generalizing state with
  | nil => exact Keeps.refl _
  | cons line rest ih => exact (step_keeps state line).trans (ih (state.step line))

theorem foldl_finish_keeps (state : State) (lines : List Text) :
    Keeps state.document (lines.foldl step state).finish.document :=
  (foldl_keeps state lines).trans (finish_keeps _)

end State

theorem run_title (title : Text) (lines : List Text) : (run title lines).document.title = title :=
  (State.foldl_finish_keeps (State.start title) lines).title

/-- Whether a script ends while a value is still open. -/
def endsOpen (lines : List Text) : Bool :=
  swallowed lines (lines.length + 1)

theorem run_append (title : Text) (lines more : List Text) :
    run title (lines ++ more) =
      (more.foldl State.step (stateAfter title lines lines.length)).finish := by
  rw [run, List.foldl_append, stateAfter, List.take_length]

theorem openValue_of_not_endsOpen (title : Text) {lines : List Text} (closed : endsOpen lines = false) :
    (stateAfter title lines lines.length).openValue = none := by
  have tracks := Tracks.after_take title lines lines.length (Nat.le_refl _)
  have swallowing := tracks.swallowing
  rw [← endsOpen, closed, Option.isSome_eq_false_iff, Option.isNone_iff_eq_none] at swallowing
  exact swallowing

/-- Where no value is left open, the end of the script adds nothing. -/
theorem run_of_not_endsOpen (title : Text) {lines : List Text} (closed : endsOpen lines = false) :
    run title lines = stateAfter title lines lines.length := by
  have noValue := openValue_of_not_endsOpen title closed
  rw [run_eq_finish]
  simp [State.finish, noValue]

/-- Whatever is appended to a script that leaves no value open, its entities come first and are the
same, and so is its about text if it has one. -/
theorem extract_append_keeps (title : Text) {text : Text} (ended : text.getLast? = some '\n')
    (closed : endsOpen (Script.linesOf text) = false) (more : Text) :
    (extract title text).1.constants <+: (extract title (text ++ more)).1.constants ∧
    (extract title text).1.vars <+: (extract title (text ++ more)).1.vars ∧
    (extract title text).1.methods <+: (extract title (text ++ more)).1.methods ∧
    ∀ about, (extract title text).1.about = some about →
      (extract title (text ++ more)).1.about = some about := by
  simp only [extract, Script.linesOf_append ended, run_append, run_of_not_endsOpen title closed]
  have keeps := State.foldl_finish_keeps
    (stateAfter title (Script.linesOf text) (Script.linesOf text).length) (Script.linesOf more)
  refine ⟨keeps.constants, keeps.vars, keeps.methods, ?_⟩
  intro about set
  have claimed := (claimsFirst_stateAfter title (Script.linesOf text) _ (Nat.le_refl _)).about (by simp [set])
  rw [State.finish_document, State.completedBy_about, foldl_claimed claimed, set]

/-- A script with an about text and a value over two lines. -/
def hostsText : Text :=
  "#!/bin/sh\n# Known hosts\n\n# Names\nHOSTS=\"a\nb\"\n# Half a\n".toList

/-- More of it: the rest of the open block, and a function. -/
def hostsMore : Text :=
  "# comment.\nPORT=80\n\n# Lists them.\nhosts() (\n".toList

theorem extract_append_hosts :
    endsOpen (Script.linesOf hostsText) = false ∧
    (extract [] hostsText).1.constants <+: (extract [] (hostsText ++ hostsMore)).1.constants ∧
    (extract [] hostsText).1.constants.length = 1 ∧
    (extract [] (hostsText ++ hostsMore)).1.constants.length = 2 ∧
    (extract [] (hostsText ++ hostsMore)).1.about = some ["Known hosts".toList] := by
  have closed : endsOpen (Script.linesOf hostsText) = false := by
    rw [endsOpen, swallowed_eq_run [] (Nat.le_refl _)]
    decide +kernel
  obtain ⟨constants, _, _, about⟩ := extract_append_keeps [] (by decide) closed hostsMore
  exact ⟨closed, constants, by decide +kernel, by decide +kernel, about _ (by decide +kernel)⟩

/-- What is appended to an open value becomes part of it. -/
example : (extract [] "\n# Names\nHOSTS=\"a\n".toList).1.constants ≠
    (extract [] ("\n# Names\nHOSTS=\"a\n".toList ++ "b\"\n".toList)).1.constants := by
  decide +kernel

end ScriptDocs.Extraction
