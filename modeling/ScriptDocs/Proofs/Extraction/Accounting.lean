import ScriptDocs.Proofs.Extraction.Tracking
import ScriptDocs.Proofs.Loading

namespace ScriptDocs.Extraction

/-!
No comment block is lost without trace. Whenever code is reached while a block is open, the block
becomes one entity on that line or one note, never both and never more; no other line adds an entity
or a note. A value that runs over several lines settles its block with the line that opens it: what is
compared is always the outcome that the script would have if it ended there.
-/

/-- Whether the next line is code that is reached while a comment block is open. -/
def State.closesBlock (state : State) (line : Text) : Bool :=
  state.openValue.isNone && state.lineNumber != 0 && state.pending.buffer.isSome &&
    Script.lineKind (Text.trimLeft ' ' line) == .code

/-- How many lines of a script are code that is reached while a comment block is open. -/
def blocksClosed (title : Text) (lines : List Text) : Nat :=
  (List.range lines.length).countP fun k =>
    (stateAfter title lines k).closesBlock (lineAt lines (k + 1))

/-- What a state has to show: its document and its notes. -/
def State.outcome (state : State) : Document × List Note :=
  (state.document, state.notes)

/-- Between two outcomes a block was settled: by one entity on line `n`, or else by one note. -/
inductive Settled (n : Nat) (before after : Document × List Note) : Prop
  | constant (entity : Variable) (line : entity.line = n)
      (added : after.1 = { before.1 with constants := before.1.constants ++ [entity] })
      (silent : after.2 = before.2)
  | var (entity : Variable) (line : entity.line = n)
      (added : after.1 = { before.1 with vars := before.1.vars ++ [entity] })
      (silent : after.2 = before.2)
  | method (entity : Method) (line : entity.line = n)
      (added : after.1 = { before.1 with methods := before.1.methods ++ [entity] })
      (silent : after.2 = before.2)
  | noted (note : Note) (unchanged : after.1 = before.1) (recorded : after.2 = before.2 ++ [note])

/-- Between two outcomes the entities stand on the same lines, and nothing was noted. -/
structure Undisturbed (before after : Document × List Note) : Prop where
  constants : after.1.constants.map Variable.line = before.1.constants.map Variable.line
  vars : after.1.vars.map Variable.line = before.1.vars.map Variable.line
  methods : after.1.methods.map Method.line = before.1.methods.map Method.line
  notes : after.2 = before.2

namespace State

variable {state : State} {line : Text}

theorem closesBlock_iff :
    state.closesBlock line = true ↔
      state.openValue = none ∧ state.lineNumber ≠ 0 ∧ state.pending.buffer ≠ none ∧
        Script.lineKind (Text.trimLeft ' ' line) = .code := by
  simp [closesBlock, and_assoc, Option.isSome_iff_ne_none]

theorem finish_closed (closed : state.openValue = none) : state.finish = state := by
  simp [finish, closed]

theorem addVariable_settles (state : State) (entity : Variable) (kind : Script.EntityKind) :
    Settled entity.line state.outcome (state.addVariable entity kind).outcome := by
  unfold addVariable Document.addVariable
  by_cases bare : entity.desc.isEmpty
  · simp only [bare, if_true]
    exact .noted (.bareVariable kind entity.name) rfl rfl
  · by_cases constant : kind = .constant
    · simp only [bare, constant, beq_self_eq_true, if_true, Bool.false_eq_true, if_false]
      exact .constant entity rfl rfl rfl
    · have other : (kind == .constant) = false := by simpa using constant
      simp only [bare, other, Bool.false_eq_true, if_false]
      exact .var entity rfl rfl rfl

theorem addMethod_settles (state : State) (method : Method) :
    Settled method.line state.outcome (state.addMethod method).outcome := by
  unfold addMethod Document.addMethod
  by_cases bare : method.desc.isEmpty
  · simp only [bare, if_true]
    exact .noted (.bareMethod method.name) rfl rfl
  · simp only [bare, Bool.false_eq_true, if_false]
    exact .method method rfl rfl rfl

theorem addMethod_openValue (state : State) (method : Method) :
    (state.addMethod method).openValue = state.openValue := by
  obtain ⟨_, added⟩ := addMethod_eq state method
  rw [added]

theorem addVariable_openValue (state : State) (entity : Variable) (kind : Script.EntityKind) :
    (state.addVariable entity kind).openValue = state.openValue := by
  obtain ⟨_, added⟩ := addVariable_eq state entity kind
  rw [added]

/-- Each of the two ways out of a function's comment settles the block. -/
theorem declareMethod_settles (closed : state.openValue = none) (name : Text) (block : List Text) :
    Settled state.lineNumber state.outcome (state.declareMethod name block).finish.outcome := by
  unfold declareMethod
  cases Comment.readMethod name block with
  | none =>
      rw [finish_closed (by simpa [note] using closed)]
      exact .noted _ rfl rfl
  | some method =>
      dsimp only
      rw [finish_closed (by rw [addMethod_openValue]; exact closed)]
      exact addMethod_settles state { method with line := state.lineNumber }

/-- Each way out of an assignment settles the block; a value that is left open will be added with the
line that opened it, however many lines it takes. -/
theorem declareVariable_settles (closed : state.openValue = none) (kind : Script.EntityKind)
    (name value : Text) (block : List Text) :
    Settled state.lineNumber state.outcome
      (state.declareVariable kind name value block).finish.outcome := by
  unfold declareVariable
  cases state.pending.methodsSeen with
  | true =>
      simp only [if_true]
      rw [finish_closed (by simpa [note] using closed)]
      exact .noted _ rfl rfl
  | false =>
      simp only [Bool.false_eq_true, if_false]
      cases Comment.readVariable name value block with
      | none =>
          dsimp only
          rw [finish_closed (by simpa [note] using closed)]
          exact .noted _ rfl rfl
      | some found =>
          dsimp only
          split
          · have same : { state with openValue := none } = state := by rw [← closed]
            simp only [finish, same]
            exact addVariable_settles state { found with line := state.lineNumber } kind
          · rw [finish_closed (by rw [addVariable_openValue]; exact closed)]
            exact addVariable_settles state { found with line := state.lineNumber } kind

theorem codeLine_settles (closed : state.openValue = none) (filled : state.pending.take.1 ≠ [])
    (line : Text) :
    Settled state.lineNumber state.outcome (state.codeLine line).finish.outcome := by
  have taken : { state with pending := state.pending.take.2 }.openValue = none := closed
  have some : state.pending.take.1.isEmpty = false := by simpa using filled
  unfold codeLine
  simp only [some, Bool.false_eq_true, if_false]
  cases Script.classify line with
  | unrecognized =>
      dsimp only
      rw [finish_closed (by simpa [note] using closed)]
      exact .noted _ rfl rfl
  | method name => exact declareMethod_settles taken name _
  | «variable» name value => exact declareVariable_settles taken _ name value _
  | constant name value => exact declareVariable_settles taken _ name value _

theorem blankLine_undisturbed (closed : state.openValue = none) :
    Undisturbed state.outcome state.blankLine.finish.outcome := by
  obtain ⟨about, closes, _⟩ := blankLine_eq state
  rw [closes, finish_closed (by exact closed)]
  exact ⟨rfl, rfl, rfl, rfl⟩

/-- A line that is no code, or finds no block open, settles nothing. -/
theorem scanLine_undisturbed (closed : state.openValue = none)
    (idle : Script.lineKind line = .code → state.pending.take.1 = []) :
    Undisturbed state.outcome (state.scanLine line).finish.outcome := by
  unfold scanLine
  cases kind : Script.lineKind line with
  | lintDirective =>
      rw [finish_closed closed]
      exact ⟨rfl, rfl, rfl, rfl⟩
  | blank => exact blankLine_undisturbed closed
  | bareMarker =>
      rw [finish_closed (by exact closed)]
      exact ⟨rfl, rfl, rfl, rfl⟩
  | comment =>
      rw [finish_closed (by exact closed)]
      exact ⟨rfl, rfl, rfl, rfl⟩
  | code =>
      have same : state.codeLine line = { state with pending := state.pending.take.2 } := by
        simp [codeLine, idle kind]
      dsimp only
      rw [same, finish_closed (by exact closed)]
      exact ⟨rfl, rfl, rfl, rfl⟩

/-- What a line adds to an open value shows nowhere but in the value. -/
theorem finish_continueValue (state : State) (value : OpenValue) (line : Text) :
    (state.continueValue value line).finish =
      { state with openValue := none }.addVariable
        { value.entity with value := value.entity.value ++ line } value.kind := by
  unfold continueValue
  dsimp only
  split
  · exact finish_closed (addVariable_openValue _ _ _)
  · rfl

theorem addVariable_undisturbed (state : State) (entity : Variable) (kind : Script.EntityKind)
    (value : Text) (lineNumber : Nat) :
    Undisturbed (state.addVariable entity kind).outcome
      ({ state with lineNumber }.addVariable { entity with value } kind).outcome := by
  unfold addVariable Document.addVariable
  by_cases bare : entity.desc.isEmpty
  · simp only [bare, if_true]
    exact ⟨rfl, rfl, rfl, rfl⟩
  · cases kind == .constant with
    | true =>
        simp only [bare, if_true, Bool.false_eq_true, if_false]
        exact ⟨by simp [outcome], rfl, rfl, rfl⟩
    | false =>
        simp only [bare, Bool.false_eq_true, if_false]
        exact ⟨rfl, by simp [outcome], rfl, rfl⟩

/-- A line that closes a block settles it. -/
theorem step_settles (closes : state.closesBlock line = true) (filled : state.pending.take.1 ≠ []) :
    Settled (state.lineNumber + 1) state.finish.outcome (state.step line).finish.outcome := by
  obtain ⟨closed, past, _, code⟩ := closesBlock_iff.mp closes
  rw [finish_closed closed, step_scan closed past, scanLine, code]
  have next : { state with lineNumber := state.lineNumber + 1 }.openValue = none := closed
  exact codeLine_settles next filled _

/-- A line that closes no block settles nothing. -/
theorem step_undisturbed (closes : state.closesBlock line = false) :
    Undisturbed state.finish.outcome (state.step line).finish.outcome := by
  cases opened : state.openValue with
  | some value =>
      rw [step_open opened, finish_continueValue]
      simp only [finish, opened]
      exact addVariable_undisturbed { state with openValue := none } value.entity value.kind _ _
  | none =>
      rw [finish_closed opened]
      by_cases first : state.lineNumber = 0
      · rw [step_first opened first, finish_closed (by exact opened)]
        exact ⟨rfl, rfl, rfl, rfl⟩
      · rw [step_scan opened first]
        have next : { state with lineNumber := state.lineNumber + 1 }.openValue = none := opened
        refine scanLine_undisturbed next (fun code => ?_)
        cases found : state.pending.buffer with
        | none => simp [Comment.Pending.take, found]
        | some block =>
            have closing := closesBlock_iff.mpr ⟨opened, first, by simp [found], code⟩
            rw [closes] at closing
            contradiction

end State

/-- An open block is never empty, so a line that finds one open has something to settle. -/
theorem take_of_closesBlock {title : Text} {lines : List Text} {k : Nat} (within : k ≤ lines.length)
    {line : Text} (closes : (stateAfter title lines k).closesBlock line = true) :
    (stateAfter title lines k).pending.take.1 ≠ [] := by
  have tracks : Tracks lines k (stateAfter title lines k) := Tracks.after_take title lines k within
  obtain ⟨_, _, someBlock, _⟩ := State.closesBlock_iff.mp closes
  intro empty
  rw [tracks.block] at empty
  exact someBlock (by simp [tracks.buffer, empty, bufferOf])

theorem Settled.count {n : Nat} {before after : Document × List Note} (settled : Settled n before after) :
    after.1.entityCount + after.2.length = before.1.entityCount + before.2.length + 1 := by
  unfold Document.entityCount
  cases settled with
  | constant entity _ added silent => simp only [added, silent, List.length_append, List.length_singleton]; omega
  | var entity _ added silent => simp only [added, silent, List.length_append, List.length_singleton]; omega
  | method entity _ added silent => simp only [added, silent, List.length_append, List.length_singleton]; omega
  | noted note unchanged recorded =>
      simp only [unchanged, recorded, List.length_append, List.length_singleton]
      omega

theorem Undisturbed.count {before after : Document × List Note} (undisturbed : Undisturbed before after) :
    after.1.entityCount + after.2.length = before.1.entityCount + before.2.length := by
  have constants := congrArg List.length undisturbed.constants
  have vars := congrArg List.length undisturbed.vars
  have methods := congrArg List.length undisturbed.methods
  simp only [List.length_map] at constants vars methods
  simp only [Document.entityCount, constants, vars, methods, undisturbed.notes]

/-- So far as many blocks were closed by code as there are entities and notes. -/
theorem count_stateAfter (title : Text) (lines : List Text) (k : Nat) (within : k ≤ lines.length) :
    ((List.range k).countP fun k => (stateAfter title lines k).closesBlock (lineAt lines (k + 1))) =
      (stateAfter title lines k).finish.document.entityCount +
        (stateAfter title lines k).finish.notes.length := by
  induction k with
  | zero => rfl
  | succ k ih =>
      have before := ih (Nat.le_of_succ_le within)
      rw [List.range_succ, List.countP_append, before, stateAfter_succ title within]
      cases closes : (stateAfter title lines k).closesBlock (lineAt lines (k + 1)) with
      | true =>
          have filled := take_of_closesBlock (Nat.le_of_succ_le within) closes
          have counted := (State.step_settles closes filled).count
          simpa [closes, State.outcome] using counted.symm
      | false =>
          have counted := (State.step_undisturbed closes).count
          simpa [closes, State.outcome] using counted.symm

/-- The records of a loaded script are one debug record for each note, and a summary of its own. -/
theorem parse_records {volume : FileTree.Volume} {path text : Text}
    (loaded : Loading.scriptText volume path = .ok text) :
    ∃ records summary, (Loading.parse volume path).2 = records ++ [summary] ∧
      records.map Log.Record.message = (extract (Path.baseName path) text).2.map Note.message ∧
      ∀ record ∈ records, record.level = Log.debug := by
  refine ⟨_, _, by rw [Loading.parse, loaded], by simp [Loading.record], ?_⟩
  intro record member
  obtain ⟨note, _, rfl⟩ := List.mem_map.mp member
  rfl

theorem extract_accounts (title text : Text) :
    (∀ k < (Script.linesOf text).length,
      let before := (run title ((Script.linesOf text).take k)).outcome
      let after := (run title ((Script.linesOf text).take (k + 1))).outcome
      if (stateAfter title (Script.linesOf text) k).closesBlock (lineAt (Script.linesOf text) (k + 1))
      then Settled (k + 1) before after
      else Undisturbed before after) ∧
    blocksClosed title (Script.linesOf text) =
      (extract title text).1.entityCount + (extract title text).2.length ∧
    ∀ volume path, Loading.scriptText volume path = .ok text →
      ∃ records summary, (Loading.parse volume path).2 = records ++ [summary] ∧
        records.map Log.Record.message = (extract (Path.baseName path) text).2.map Note.message ∧
        ∀ record ∈ records, record.level = Log.debug := by
  refine ⟨fun k within => ?_, ?_, fun volume path => parse_records⟩
  · have tracks := Tracks.after_take title (Script.linesOf text) k (Nat.le_of_lt within)
    have number : (stateAfter title (Script.linesOf text) k).lineNumber = k := tracks.lineNumber
    dsimp only
    rw [run_take, run_take, stateAfter_succ title within]
    split
    · rename_i closes
      have settled := State.step_settles closes (take_of_closesBlock (Nat.le_of_lt within) closes)
      rwa [number] at settled
    · rename_i open_
      exact State.step_undisturbed (by simpa using open_)
  · have counted := count_stateAfter title (Script.linesOf text) _ (Nat.le_refl _)
    rwa [← run_eq_finish] at counted

/-- A script with a constant over two lines and a comment above a command. -/
def sizesText : Text :=
  "#!/bin/sh\n# Sizes\nSIZES=\"1\n2\"\n# Lost\necho\n".toList

/-- A volume with that script alone. -/
def sizesVolume : FileTree.Volume where
  root := .directory [("sizes.sh".toList, .file (Utf8.encode sizesText) .readable)]

theorem extract_accounts_sizes :
    ((stateAfter [] (Script.linesOf sizesText) 2).closesBlock (lineAt (Script.linesOf sizesText) 3) = true ∧
      Settled 3 (run [] ((Script.linesOf sizesText).take 2)).outcome
        (run [] ((Script.linesOf sizesText).take 3)).outcome) ∧
    blocksClosed [] (Script.linesOf sizesText) =
      (extract [] sizesText).1.entityCount + (extract [] sizesText).2.length ∧
    Loading.scriptText sizesVolume "/sizes.sh".toList = .ok sizesText ∧
      ∃ records summary, (Loading.parse sizesVolume "/sizes.sh".toList).2 = records ++ [summary] ∧
        records.map Log.Record.message = (extract "sizes.sh".toList sizesText).2.map Note.message ∧
        ∀ record ∈ records, record.level = Log.debug := by
  have accounts := extract_accounts [] sizesText
  have closes : (stateAfter [] (Script.linesOf sizesText) 2).closesBlock
      (lineAt (Script.linesOf sizesText) 3) = true := by decide +kernel
  have settled := accounts.1 2 (by decide +kernel)
  simp only [closes, if_true] at settled
  have loaded : Loading.scriptText sizesVolume "/sizes.sh".toList = .ok sizesText :=
    Loading.Legible.scriptText ⟨rfl, by decide +kernel⟩
  exact ⟨⟨closes, settled⟩, accounts.2.1, loaded, accounts.2.2 sizesVolume _ loaded⟩

end ScriptDocs.Extraction
