import ScriptDocs.Extraction

namespace ScriptDocs.Extraction

/-!
What one line can do to the state. A line falls to an open value, is the first line, or is scanned;
a code line either drops its block, declares a function, or makes an assignment whose value is
complete or left open. Everything proved about whole scripts goes through these equations.
-/

/-- An entity on its way into a document. -/
inductive Entity where
  | constant (entity : Variable)
  | var (entity : Variable)
  | method (entity : Method)
  deriving DecidableEq, Repr

namespace Entity

/-- An assigned entity of a kind; what is no constant is a variable. -/
def ofVariable (kind : Script.EntityKind) (entity : Variable) : Entity :=
  if kind = .constant then .constant entity else .var entity

def constant? : Entity → Option Variable
  | .constant entity => some entity
  | _ => none

def var? : Entity → Option Variable
  | .var entity => some entity
  | _ => none

def method? : Entity → Option Method
  | .method entity => some entity
  | _ => none

def line : Entity → Nat
  | .constant entity => entity.line
  | .var entity => entity.line
  | .method entity => entity.line

def desc : Entity → List Text
  | .constant entity => entity.desc
  | .var entity => entity.desc
  | .method entity => entity.desc

@[simp] theorem ofVariable_desc (kind : Script.EntityKind) (entity : Variable) :
    (ofVariable kind entity).desc = entity.desc := by
  unfold ofVariable
  split <;> rfl

@[simp] theorem ofVariable_line (kind : Script.EntityKind) (entity : Variable) :
    (ofVariable kind entity).line = entity.line := by
  unfold ofVariable
  split <;> rfl

end Entity

/-- The document with a described entity after those of its sort; others are left out. -/
def withEntity (document : Document) (entity : Entity) : Document :=
  if entity.desc.isEmpty then document
  else
    match entity with
    | .constant entity => { document with constants := document.constants ++ [entity] }
    | .var entity => { document with vars := document.vars ++ [entity] }
    | .method entity => { document with methods := document.methods ++ [entity] }

@[simp] theorem withEntity_about (document : Document) (entity : Entity) :
    (withEntity document entity).about = document.about := by
  unfold withEntity
  split
  · rfl
  · cases entity <;> rfl

theorem setAbout_eq (document : Document) (lines : List Text) :
    ∃ about, document.setAbout lines = { document with about } ∧
      (about = document.about ∨ about = some (Comment.clean lines) ∧ Comment.clean lines ≠ []) := by
  unfold Document.setAbout
  cases cleaned : Comment.clean lines with
  | nil => exact ⟨document.about, rfl, .inl rfl⟩
  | cons first rest => exact ⟨some (first :: rest), rfl, .inr ⟨rfl, by simp⟩⟩

namespace State

theorem addVariable_eq (state : State) (entity : Variable) (kind : Script.EntityKind) :
    ∃ notes, state.addVariable entity kind =
      { state with document := withEntity state.document (.ofVariable kind entity), notes } := by
  unfold addVariable Document.addVariable withEntity
  by_cases bare : entity.desc.isEmpty
  · exact ⟨state.notes ++ [.bareVariable kind entity.name], by simp [bare, note]⟩
  · refine ⟨state.notes, ?_⟩
    by_cases constant : kind = .constant
    · simp [bare, constant, Entity.ofVariable, Entity.desc]
    · simp [bare, constant, Entity.ofVariable, Entity.desc]

theorem addMethod_eq (state : State) (method : Method) :
    ∃ notes, state.addMethod method =
      { state with
        pending := { state.pending with methodsSeen := true }
        document := withEntity state.document (.method method)
        notes } := by
  unfold addMethod Document.addMethod withEntity
  by_cases bare : method.desc.isEmpty
  · exact ⟨state.notes ++ [.bareMethod method.name], by simp [bare, note, Entity.desc]⟩
  · exact ⟨state.notes, by simp [bare, Entity.desc]⟩

theorem declareVariable_private (state : State) (kind : Script.EntityKind) (name value : Text)
    {block : List Text} (marked : Comment.isPrivate block = true) :
    ∃ notes, state.declareVariable kind name value block = { state with notes } := by
  unfold declareVariable
  by_cases seen : state.pending.methodsSeen
  · exact ⟨state.notes ++ [.afterMethods kind name], by simp [seen, note]⟩
  · exact ⟨state.notes ++ [.privateVariable kind name state.lineNumber], by
      simp [seen, Comment.readVariable, marked, note]⟩

theorem codeLine_method (state : State) {line name : Text}
    (filled : state.pending.take.1 ≠ []) (declared : Script.classify line = .method name) :
    state.codeLine line =
      { state with pending := state.pending.take.2 }.declareMethod name state.pending.take.1 := by
  have filled : state.pending.take.1.isEmpty = false := by simpa using filled
  simp [codeLine, filled, declared]

theorem codeLine_assignment (state : State) (line : Text) {declared : Script.Declaration}
    (filled : state.pending.take.1 ≠ []) (classified : Script.classify line = declared)
    (assigns : declared.isAssignment = true) :
    state.codeLine line =
      { state with pending := state.pending.take.2 }.declareVariable declared.kind declared.name
        declared.value state.pending.take.1 := by
  have filled : state.pending.take.1.isEmpty = false := by simpa using filled
  cases declared with
  | unrecognized => simp [Script.Declaration.isAssignment] at assigns
  | method name => simp [Script.Declaration.isAssignment] at assigns
  | «variable» name value =>
      simp [codeLine, filled, classified, Script.Declaration.kind, Script.Declaration.name,
        Script.Declaration.value]
  | constant name value =>
      simp [codeLine, filled, classified, Script.Declaration.kind, Script.Declaration.name,
        Script.Declaration.value]

/-- A code line without a block, with a private one, or that declares nothing only closes the block. -/
theorem codeLine_drops (state : State) (line : Text)
    (hidden : state.pending.take.1 = [] ∨ Comment.isPrivate state.pending.take.1 = true ∨
      Script.classify line = .unrecognized) :
    ∃ notes, state.codeLine line = { state with pending := state.pending.take.2, notes } := by
  by_cases empty : state.pending.take.1 = []
  · exact ⟨state.notes, by simp [codeLine, empty]⟩
  · have filled : state.pending.take.1.isEmpty = false := by simpa using empty
    by_cases unrecognized : Script.classify line = .unrecognized
    · exact ⟨state.notes ++ [.orphaned state.lineNumber], by
        simp [codeLine, filled, unrecognized, note]⟩
    · have marked : Comment.isPrivate state.pending.take.1 = true := by
        simpa [empty, unrecognized] using hidden
      cases assigns : (Script.classify line).isAssignment with
      | true =>
          rw [codeLine_assignment state line empty rfl assigns]
          exact declareVariable_private _ _ _ _ marked
      | false =>
          obtain ⟨name, declared⟩ : ∃ name, Script.classify line = .method name := by
            cases declared : Script.classify line <;>
              simp_all [Script.Declaration.isAssignment]
          rw [codeLine_method state empty declared]
          exact ⟨state.notes ++ [.privateMethod name state.lineNumber], by
            simp [declareMethod, Comment.readMethod, marked, note]⟩

theorem codeLine_declares_method (state : State) {line name : Text}
    (filled : state.pending.take.1 ≠ [])
    (shown : Comment.isPrivate state.pending.take.1 = false)
    (declared : Script.classify line = .method name) :
    ∃ method notes, Comment.readMethod name state.pending.take.1 = some method ∧
      state.codeLine line =
        { state with
          pending := { state.pending.take.2 with methodsSeen := true }
          document := withEntity state.document (.method { method with line := state.lineNumber })
          notes } := by
  obtain ⟨method, read⟩ : ∃ method, Comment.readMethod name state.pending.take.1 = some method := by
    simp [Comment.readMethod, filled, shown]
  rw [codeLine_method state filled declared]
  obtain ⟨notes, added⟩ := addMethod_eq { state with pending := state.pending.take.2 }
    { method with line := state.lineNumber }
  exact ⟨method, notes, read, by simpa [declareMethod, read] using added⟩

theorem codeLine_ignores_assignment (state : State) (line : Text) {declared : Script.Declaration}
    (classified : Script.classify line = declared) (assigns : declared.isAssignment = true)
    (seen : state.pending.methodsSeen = true) :
    ∃ notes, state.codeLine line = { state with pending := state.pending.take.2, notes } := by
  by_cases empty : state.pending.take.1 = []
  · exact codeLine_drops state line (.inl empty)
  · rw [codeLine_assignment state line empty classified assigns]
    refine ⟨state.notes ++ [.afterMethods declared.kind declared.name], ?_⟩
    simp [declareVariable, Comment.Pending.take, seen, note]

/-- A documented assignment is read, and then added at once or kept open while its value goes on. -/
theorem codeLine_reads (state : State) (line : Text) {declared : Script.Declaration}
    (filled : state.pending.take.1 ≠ [])
    (shown : Comment.isPrivate state.pending.take.1 = false)
    (classified : Script.classify line = declared) (assigns : declared.isAssignment = true)
    (unseen : state.pending.methodsSeen = false) :
    ∃ found, Comment.readVariable declared.name declared.value state.pending.take.1 = some found ∧
      found.value = declared.value ∧
      state.codeLine line =
        if Comment.opensString declared.value then
          { state with
            pending := state.pending.take.2
            openValue := some ⟨{ found with line := state.lineNumber }, declared.kind⟩ }
        else
          { state with pending := state.pending.take.2 }.addVariable
            { found with line := state.lineNumber } declared.kind := by
  obtain ⟨found, read, sameValue⟩ : ∃ found,
      Comment.readVariable declared.name declared.value state.pending.take.1 = some found ∧
        found.value = declared.value := by
    simp [Comment.readVariable, filled, shown]
  have stillUnseen : state.pending.take.2.methodsSeen = false := unseen
  refine ⟨found, read, sameValue, ?_⟩
  rw [codeLine_assignment state line filled classified assigns]
  simp only [declareVariable, stillUnseen, read, sameValue]
  rfl

/-- All that a code line can do: drop its block, add an entity, or leave a value open. -/
theorem codeLine_cases (state : State) (line : Text) :
    (∃ notes, state.codeLine line = { state with pending := state.pending.take.2, notes }) ∨
      (∃ methodsSeen entity notes, state.codeLine line =
        { state with
          pending := { state.pending.take.2 with methodsSeen }
          document := withEntity state.document entity
          notes }) ∨
      ∃ value, state.codeLine line =
        { state with pending := state.pending.take.2, openValue := some value } := by
  by_cases empty : state.pending.take.1 = []
  · exact .inl (codeLine_drops state line (.inl empty))
  · cases marked : Comment.isPrivate state.pending.take.1 with
    | true => exact .inl (codeLine_drops state line (.inr (.inl marked)))
    | false =>
        cases assigns : (Script.classify line).isAssignment with
        | true =>
            cases seen : state.pending.methodsSeen with
            | true => exact .inl (codeLine_ignores_assignment state line rfl assigns seen)
            | false =>
                obtain ⟨found, _, _, coded⟩ := codeLine_reads state line empty marked rfl assigns seen
                rw [coded]
                split
                · exact .inr (.inr ⟨_, rfl⟩)
                · obtain ⟨notes, added⟩ := addVariable_eq { state with pending := state.pending.take.2 }
                    { found with line := state.lineNumber } (Script.classify line).kind
                  exact .inr (.inl ⟨_, _, notes, added⟩)
        | false =>
            cases declared : Script.classify line with
            | unrecognized => exact .inl (codeLine_drops state line (.inr (.inr declared)))
            | method name =>
                obtain ⟨method, notes, _, coded⟩ := codeLine_declares_method state empty marked declared
                exact .inr (.inl ⟨_, _, notes, coded⟩)
            | «variable» name value => simp [declared, Script.Declaration.isAssignment] at assigns
            | constant name value => simp [declared, Script.Declaration.isAssignment] at assigns

theorem blankLine_eq (state : State) :
    ∃ about, state.blankLine =
      { state with pending := state.pending.take.2, document := { state.document with about } } ∧
      (about = state.document.about ∨
        about = some (Comment.clean state.pending.take.1) ∧ Comment.clean state.pending.take.1 ≠ []) := by
  obtain ⟨about, set, choice⟩ := setAbout_eq state.document state.pending.take.1
  unfold blankLine
  dsimp only
  split
  · exact ⟨about, by rw [set], choice⟩
  · exact ⟨state.document.about, rfl, .inl rfl⟩

/-- A line taken into an open value changes nothing but the value and what becomes of it. -/
theorem continueValue_frame (state : State) (value : OpenValue) (line : Text) :
    ∃ openValue document notes,
      state.continueValue value line = { state with openValue, document, notes } ∧
        openValue.isSome = !(line.getLast? == some '"') ∧
        document.about = state.document.about := by
  unfold continueValue
  cases quoted : line.getLast? == some '"' with
  | true =>
      obtain ⟨notes, added⟩ := addVariable_eq { state with openValue := none }
        { value.entity with value := value.entity.value ++ line } value.kind
      exact ⟨none, _, notes, added, rfl, withEntity_about _ _⟩
  | false => exact ⟨_, state.document, state.notes, rfl, rfl, rfl⟩

theorem step_open {state : State} {value : OpenValue} (opened : state.openValue = some value)
    (line : Text) :
    state.step line =
      { state with lineNumber := state.lineNumber + 1 }.continueValue value line := by
  simp [step, opened]

theorem step_first {state : State} (closed : state.openValue = none)
    (before : state.lineNumber = 0) (line : Text) :
    state.step line = { state with lineNumber := 1 } := by
  simp [step, closed, before]

theorem step_scan {state : State} (closed : state.openValue = none)
    (past : state.lineNumber ≠ 0) (line : Text) :
    state.step line =
      { state with lineNumber := state.lineNumber + 1 }.scanLine (Text.trimLeft ' ' line) := by
  simp [step, closed, past]

theorem codeLine_about (state : State) (line : Text) :
    (state.codeLine line).document.about = state.document.about := by
  rcases codeLine_cases state line with ⟨_, coded⟩ | ⟨_, _, _, coded⟩ | ⟨_, coded⟩
  · rw [coded]
  · rw [coded, withEntity_about]
  · rw [coded]

/-- The about text is set by a line only to the cleaned block that the line closes. -/
theorem step_about (state : State) (line : Text) :
    (state.step line).document.about = state.document.about ∨
      (state.step line).document.about = some (Comment.clean state.pending.take.1) ∧
        Comment.clean state.pending.take.1 ≠ [] := by
  cases opened : state.openValue with
  | some value =>
      obtain ⟨openValue, document, notes, continued, _, sameAbout⟩ :=
        continueValue_frame { state with lineNumber := state.lineNumber + 1 } value line
      rw [step_open opened, continued]
      exact .inl sameAbout
  | none =>
      by_cases first : state.lineNumber = 0
      · rw [step_first opened first]
        exact .inl rfl
      · rw [step_scan opened first, scanLine]
        cases Script.lineKind (Text.trimLeft ' ' line) with
        | lintDirective => exact .inl rfl
        | blank =>
            obtain ⟨about, closes, choice⟩ := blankLine_eq { state with lineNumber := state.lineNumber + 1 }
            rw [closes]
            exact choice
        | bareMarker => exact .inl rfl
        | comment => exact .inl rfl
        | code => exact .inl (codeLine_about _ _)

theorem step_lineNumber (state : State) (line : Text) :
    (state.step line).lineNumber = state.lineNumber + 1 := by
  cases opened : state.openValue with
  | some value =>
      obtain ⟨_, _, _, continued, _, _⟩ :=
        continueValue_frame { state with lineNumber := state.lineNumber + 1 } value line
      rw [step_open opened, continued]
  | none =>
      by_cases first : state.lineNumber = 0
      · rw [step_first opened first, first]
      · rw [step_scan opened first, scanLine]
        cases Script.lineKind (Text.trimLeft ' ' line) with
        | lintDirective => rfl
        | blank =>
            obtain ⟨_, closes, _⟩ := blankLine_eq { state with lineNumber := state.lineNumber + 1 }
            rw [closes]
        | bareMarker => rfl
        | comment => rfl
        | code =>
            rcases codeLine_cases { state with lineNumber := state.lineNumber + 1 }
                (Text.trimLeft ' ' line) with ⟨_, coded⟩ | ⟨_, _, _, coded⟩ | ⟨_, coded⟩ <;>
              rw [coded]

end State

end ScriptDocs.Extraction
