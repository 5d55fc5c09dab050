import ScriptDocs.Proofs.Comment
import ScriptDocs.Proofs.Extraction.Attachment

namespace ScriptDocs.Extraction

/-!
The state after some lines holds exactly what the rule of attachment says about these lines: whether
the next line is swallowed, the block above it, whether functions were documented, and the entities so
far. An open value counts with everything that the lines to come will add to it, so a value that runs
over many lines is one entity from the line that opens it.
-/

/-- The document holds just these entities, each sort in their order. -/
structure Holds (document : Document) (entities : List Entity) : Prop where
  constants : document.constants = entities.filterMap Entity.constant?
  vars : document.vars = entities.filterMap Entity.var?
  methods : document.methods = entities.filterMap Entity.method?

/-- The document of a state once the lines to come have completed its open value. -/
def State.completedBy (state : State) (rest : List Text) : Document :=
  match state.openValue with
  | none => state.document
  | some value =>
      withEntity state.document (.ofVariable value.kind
        { value.entity with
          value := value.entity.value ++ (Script.splitAfter ['"'] rest).1.flatten })

theorem Holds.withEntity {document : Document} {entities : List Entity}
    (holds : Holds document entities) (entity : Entity) :
    Holds (Extraction.withEntity document entity)
      (entities ++ ((some entity).filter (fun entity => !entity.desc.isEmpty)).toList) := by
  obtain ⟨constants, vars, methods⟩ := holds
  unfold Extraction.withEntity
  rw [Option.filter_some]
  by_cases bare : entity.desc.isEmpty
  · simp only [bare, if_true, Bool.not_true, Bool.false_eq_true, if_false, Option.toList_none,
      List.append_nil]
    exact ⟨constants, vars, methods⟩
  · simp only [bare, Bool.not_false, if_true, Option.toList_some]
    cases entity <;> constructor <;>
      simp [constants, vars, methods, Entity.constant?, Entity.var?, Entity.method?]

theorem Holds.setAbout {document : Document} {entities : List Entity} (holds : Holds document entities)
    (about : Option (List Text)) : Holds { document with about } entities :=
  ⟨holds.constants, holds.vars, holds.methods⟩

theorem isSuffixOf_quote (line : Text) : ['"'].isSuffixOf line = endsInQuote line := by
  rcases List.eq_nil_or_concat line with rfl | ⟨front, last, rfl⟩
  · rfl
  · rw [Bool.eq_iff_iff]
    rw [List.isSuffixOf_iff_suffix]
    constructor
    · rintro ⟨before, same⟩
      have lastSame := congrArg List.getLast? same
      simpa [endsInQuote] using lastSame.symm
    · intro quoted
      have lastQuote : last = '"' := by simpa [endsInQuote] using quoted
      exact ⟨front, by simp [lastQuote]⟩

/-- A line that an open value takes in changes nothing about the completed document. -/
theorem State.completedBy_continueValue (state : State) {value : OpenValue}
    (opened : state.openValue = some value) (line : Text) (rest : List Text) :
    (state.continueValue value line).completedBy rest = state.completedBy (line :: rest) := by
  unfold State.continueValue
  by_cases quoted : endsInQuote line
  · have closes : (line.getLast? == some '"') = true := quoted
    obtain ⟨notes, added⟩ := State.addVariable_eq { state with openValue := none }
      { value.entity with value := value.entity.value ++ line } value.kind
    simp only [closes, if_true, added, State.completedBy, opened, Script.splitAfter, isSuffixOf_quote,
      quoted, List.flatten_singleton]
  · have stays : (line.getLast? == some '"') = false := by simpa [endsInQuote] using quoted
    simp only [stays, State.completedBy, opened, Script.splitAfter, isSuffixOf_quote, quoted]
    simp [List.append_assoc]

theorem State.finish_document (state : State) : state.finish.document = state.completedBy [] := by
  unfold State.finish State.completedBy
  cases opened : state.openValue with
  | none => rfl
  | some value =>
      obtain ⟨notes, added⟩ := State.addVariable_eq { state with openValue := none } value.entity value.kind
      simp [added, Script.splitAfter]

/-- The buffer that stands for a block: none is open where the block is empty. -/
def bufferOf (block : List Text) : Option (List Text) :=
  if block = [] then none else some block

@[simp] theorem bufferOf_getD (block : List Text) : (bufferOf block).getD [] = block := by
  unfold bufferOf
  split
  · simp_all
  · rfl

/-- The state after the first `k` lines agrees with the rule of attachment on these lines. -/
structure Tracks (lines : List Text) (k : Nat) (state : State) : Prop where
  lineNumber : state.lineNumber = k
  swallowing : state.openValue.isSome = swallowed lines (k + 1)
  buffer : state.pending.buffer = bufferOf (attachedBlock lines (k + 1))
  methodsSeen : state.pending.methodsSeen = afterMethods lines (k + 1)
  entities : Holds (state.completedBy (lines.drop k)) (entitiesUpTo lines k)

private theorem drop_of_getElem? {lines : List Text} {k : Nat} {line : Text}
    (found : lines[k]? = some line) : lines.drop k = line :: lines.drop (k + 1) := by
  obtain ⟨bound, same⟩ := List.getElem?_eq_some_iff.mp found
  rw [List.drop_eq_getElem_cons bound, same]

namespace Tracks

variable {lines : List Text} {k : Nat} {state : State} {line : Text}

theorem block (tracks : Tracks lines k state) :
    state.pending.take.1 = attachedBlock lines (k + 1) := by
  simp [Comment.Pending.take, tracks.buffer]

theorem start (title : Text) (lines : List Text) : Tracks lines 0 (State.start title) where
  lineNumber := rfl
  swallowing := by simp [State.start, swallowed_succ, swallowed_zero, opensValue_undocumented,
    documented_first]
  buffer := by simp [State.start, attachedBlock_succ_closed, bufferOf]
  methodsSeen := by
    simp [State.start, afterMethods_succ, documented_first, afterMethods]
  entities := by
    have nothing : entitiesUpTo lines 0 = [] := by
      simp [entitiesUpTo, entityAt_undocumented (documented_first lines (Nat.zero_le 1))]
    rw [nothing]
    exact ⟨rfl, rfl, rfl⟩

/-- A line that documents nothing leaves all but the block as it was. -/
theorem quiet (tracks : Tracks lines k state) (closed : state.openValue = none)
    (undocumented : documented lines (k + 1) = false) {next : State}
    (lineNumber : next.lineNumber = k + 1) (stillClosed : next.openValue = none)
    (buffer : next.pending.buffer = bufferOf (attachedBlock lines (k + 2)))
    (seen : next.pending.methodsSeen = state.pending.methodsSeen)
    (unchanged : ∃ about, next.document = { state.document with about }) :
    Tracks lines (k + 1) next where
  lineNumber := lineNumber
  swallowing := by
    have reached := tracks.swallowing
    rw [closed] at reached
    rw [stillClosed, swallowed_succ, opensValue_undocumented undocumented, ← reached]
    rfl
  buffer := buffer
  methodsSeen := by
    rw [seen, tracks.methodsSeen, afterMethods_succ lines (k + 1), undocumented]
    simp
  entities := by
    obtain ⟨about, same⟩ := unchanged
    have holds := tracks.entities
    rw [entitiesUpTo_succ, entityAt_undocumented undocumented]
    simp only [State.completedBy, closed] at holds
    simp only [State.completedBy, stillClosed, same, Option.toList_none, List.append_nil]
    exact holds.setAbout about

theorem step_open (tracks : Tracks lines k state) (found : lines[k]? = some line) {value : OpenValue}
    (opened : state.openValue = some value) : Tracks lines (k + 1) (state.step line) := by
  have inside : swallowed lines (k + 1) = true := by rw [← tracks.swallowing, opened]; rfl
  have undocumented : documented lines (k + 1) = false := by
    cases documents : documented lines (k + 1) with
    | false => rfl
    | true => simpa [inside] using ((documented_iff lines (k + 1)).mp documents).1
  have here := lineAt_of_getElem? found
  have noBlock := attachedBlock_swallowed inside
  have noBlockBelow : attachedBlock lines (k + 2) = [] := attachedBlock_succ_closed (.inr (.inl inside))
  obtain ⟨openValue, document, notes, continued, still, _⟩ :=
    State.continueValue_frame { state with lineNumber := state.lineNumber + 1 } value line
  have completed := State.completedBy_continueValue { state with lineNumber := state.lineNumber + 1 }
    opened line (lines.drop (k + 1))
  rw [State.step_open opened]
  constructor
  · rw [continued]
    exact congrArg Nat.succ tracks.lineNumber
  · rw [swallowed_succ, opensValue_undocumented undocumented, inside, here, continued]
    exact still
  · rw [continued, noBlockBelow, ← noBlock]
    exact tracks.buffer
  · rw [continued, afterMethods_succ lines (k + 1), undocumented, ← tracks.methodsSeen]
    simp
  · rw [completed, ← drop_of_getElem? found, entitiesUpTo_succ, entityAt_undocumented undocumented,
      Option.toList_none, List.append_nil]
    exact tracks.entities

theorem step_first (tracks : Tracks lines 0 state) (closed : state.openValue = none) :
    Tracks lines 1 (state.step line) := by
  rw [State.step_first closed tracks.lineNumber]
  have noBlock : attachedBlock lines 1 = [] := attachedBlock_succ_closed (.inl (Nat.zero_le 1))
  have noBlockBelow : attachedBlock lines 2 = [] := attachedBlock_succ_closed (.inl (Nat.le_refl 1))
  refine tracks.quiet closed (documented_first lines (Nat.le_refl 1)) rfl closed ?_ rfl
    ⟨state.document.about, rfl⟩
  rw [noBlockBelow, ← noBlock]
  exact tracks.buffer

theorem step_method (tracks : Tracks lines k state) (closed : state.openValue = none) {name : Text}
    (documents : documented lines (k + 1) = true)
    (declared : declarationAt lines (k + 1) = .method name) :
    Tracks lines (k + 1)
      ({ state with lineNumber := state.lineNumber + 1 }.codeLine (strippedAt lines (k + 1))) := by
  obtain ⟨reached, code, _, filled, shown⟩ := (documented_iff lines (k + 1)).mp documents
  have noBlock : attachedBlock lines (k + 2) = [] := attachedBlock_succ_closed (.inr (.inr (.inr code)))
  obtain ⟨method, notes, read, coded⟩ := State.codeLine_declares_method
    { state with lineNumber := state.lineNumber + 1 } (tracks.block ▸ filled) (tracks.block ▸ shown)
    declared
  simp only [tracks.block] at read
  have candidate := candidateAt_method documents declared read
  have holds := tracks.entities
  simp only [State.completedBy, closed] at holds
  rw [coded]
  constructor
  · exact congrArg Nat.succ tracks.lineNumber
  · simp [closed, swallowed_succ lines (k + 1), opensValue, declared, Script.Declaration.isAssignment,
      reached]
  · rw [noBlock]
    rfl
  · simp [afterMethods_succ lines (k + 1), documents, declared, Script.Declaration.kind]
  · rw [entitiesUpTo_succ, entityAt, candidate]
    simp only [State.completedBy, closed, tracks.lineNumber]
    exact holds.withEntity _

theorem step_ignored (tracks : Tracks lines k state) (closed : state.openValue = none)
    (documents : documented lines (k + 1) = true)
    (assigns : (declarationAt lines (k + 1)).isAssignment = true)
    (after : afterMethods lines (k + 1) = true) :
    Tracks lines (k + 1)
      ({ state with lineNumber := state.lineNumber + 1 }.codeLine (strippedAt lines (k + 1))) := by
  obtain ⟨reached, code, _, _, _⟩ := (documented_iff lines (k + 1)).mp documents
  have noBlock : attachedBlock lines (k + 2) = [] := attachedBlock_succ_closed (.inr (.inr (.inr code)))
  obtain ⟨notes, ignored⟩ := State.codeLine_ignores_assignment
    { state with lineNumber := state.lineNumber + 1 } (strippedAt lines (k + 1)) rfl assigns
    (tracks.methodsSeen.trans after)
  have holds := tracks.entities
  simp only [State.completedBy, closed] at holds
  rw [ignored]
  constructor
  · exact congrArg Nat.succ tracks.lineNumber
  · simp [closed, swallowed_succ lines (k + 1), opensValue, after, reached]
  · rw [noBlock]
    rfl
  · simp [Comment.Pending.take, tracks.methodsSeen, afterMethods_succ lines (k + 1), after]
  · rw [entitiesUpTo_succ, entityAt_ignored assigns after]
    simpa [State.completedBy, closed] using holds

/-- An assignment before all functions joins the entities at once. If its value is left open, the
completed document already counts what the swallowed lines will add. -/
theorem step_assignment (tracks : Tracks lines k state) (closed : state.openValue = none)
    (documents : documented lines (k + 1) = true)
    (assigns : (declarationAt lines (k + 1)).isAssignment = true)
    (before : afterMethods lines (k + 1) = false) :
    Tracks lines (k + 1)
      ({ state with lineNumber := state.lineNumber + 1 }.codeLine (strippedAt lines (k + 1))) := by
  obtain ⟨reached, code, _, filled, shown⟩ := (documented_iff lines (k + 1)).mp documents
  have noBlock : attachedBlock lines (k + 2) = [] := attachedBlock_succ_closed (.inr (.inr (.inr code)))
  have sameMethods : afterMethods lines (k + 2) = afterMethods lines (k + 1) := by
    have noMethod : (declarationAt lines (k + 1)).kind ≠ .method := by
      cases declared : declarationAt lines (k + 1) <;>
        simp_all [Script.Declaration.isAssignment, Script.Declaration.kind]
    simp [afterMethods_succ lines (k + 1), noMethod]
  have classified : Script.classify (strippedAt lines (k + 1)) = declarationAt lines (k + 1) := rfl
  obtain ⟨found, read, sameValue, coded⟩ := State.codeLine_reads
    { state with lineNumber := state.lineNumber + 1 } (strippedAt lines (k + 1))
    (tracks.block ▸ filled) (tracks.block ▸ shown) classified assigns (tracks.methodsSeen.trans before)
  simp only [tracks.block] at read
  have candidate := candidateAt_assignment documents assigns before read
  have holds := tracks.entities
  simp only [State.completedBy, closed] at holds
  cases opens : Comment.opensString (declarationAt lines (k + 1)).value with
  | true =>
      rw [coded, if_pos opens]
      constructor
      · exact congrArg Nat.succ tracks.lineNumber
      · simp [swallowed_succ lines (k + 1), opensValue, documents, before, assigns, opens]
      · rw [noBlock]
        rfl
      · exact tracks.methodsSeen.trans sameMethods.symm
      · rw [entitiesUpTo_succ, entityAt, candidate]
        simp only [State.completedBy, opens, if_true, tracks.lineNumber, sameValue]
        exact holds.withEntity _
  | false =>
      obtain ⟨notes, added⟩ := State.addVariable_eq
        { state with lineNumber := state.lineNumber + 1, pending := state.pending.take.2 }
        { found with line := state.lineNumber + 1 } (declarationAt lines (k + 1)).kind
      rw [coded, if_neg (Bool.eq_false_iff.mp opens), added]
      constructor
      · exact congrArg Nat.succ tracks.lineNumber
      · simp [closed, swallowed_succ lines (k + 1), opensValue, opens, reached]
      · rw [noBlock]
        rfl
      · exact tracks.methodsSeen.trans sameMethods.symm
      · rw [entitiesUpTo_succ, entityAt, candidate]
        simp only [State.completedBy, closed, opens, tracks.lineNumber, Bool.false_eq_true, if_false,
          List.append_nil, sameValue]
        exact holds.withEntity _

theorem step_documented (tracks : Tracks lines k state) (closed : state.openValue = none)
    (documents : documented lines (k + 1) = true) :
    Tracks lines (k + 1)
      ({ state with lineNumber := state.lineNumber + 1 }.codeLine (strippedAt lines (k + 1))) := by
  cases assigns : (declarationAt lines (k + 1)).isAssignment with
  | false =>
      have declares := ((documented_iff lines (k + 1)).mp documents).2.2.1
      obtain ⟨name, declared⟩ : ∃ name, declarationAt lines (k + 1) = .method name := by
        cases declared : declarationAt lines (k + 1) <;> simp_all [Script.Declaration.isAssignment]
      exact tracks.step_method closed documents declared
  | true =>
      cases after : afterMethods lines (k + 1) with
      | true => exact tracks.step_ignored closed documents assigns after
      | false => exact tracks.step_assignment closed documents assigns after

theorem step_undocumented (tracks : Tracks lines k state) (closed : state.openValue = none)
    (code : kindAt lines (k + 1) = .code) (undocumented : documented lines (k + 1) = false) :
    Tracks lines (k + 1)
      ({ state with lineNumber := state.lineNumber + 1 }.codeLine (strippedAt lines (k + 1))) := by
  have noBlock : attachedBlock lines (k + 2) = [] := attachedBlock_succ_closed (.inr (.inr (.inr code)))
  have reached : swallowed lines (k + 1) = false := by rw [← tracks.swallowing, closed]; rfl
  have hidden := undocumented_code reached code undocumented
  rw [← tracks.block] at hidden
  obtain ⟨notes, dropped⟩ := State.codeLine_drops { state with lineNumber := state.lineNumber + 1 }
    (strippedAt lines (k + 1)) hidden
  rw [dropped]
  exact tracks.quiet closed undocumented (congrArg Nat.succ tracks.lineNumber) closed
    (by rw [noBlock]; rfl) rfl ⟨state.document.about, rfl⟩

theorem step_scan (tracks : Tracks lines k state) (found : lines[k]? = some line)
    (closed : state.openValue = none) (past : k ≠ 0) : Tracks lines (k + 1) (state.step line) := by
  have reached : swallowed lines (k + 1) = false := by rw [← tracks.swallowing, closed]; rfl
  have stripped : Text.trimLeft ' ' line = strippedAt lines (k + 1) := by
    rw [strippedAt, lineAt_of_getElem? found]
  have undocumented : kindAt lines (k + 1) ≠ .code → documented lines (k + 1) = false := by
    intro notCode
    cases documents : documented lines (k + 1) with
    | false => rfl
    | true => exact absurd ((documented_iff lines (k + 1)).mp documents).2.1 notCode
  rw [State.step_scan closed (tracks.lineNumber ▸ past), stripped, State.scanLine]
  cases kind : Script.lineKind (strippedAt lines (k + 1)) with
  | lintDirective =>
      have comments := commentsAbove_succ (by omega) reached (.inr (.inr kind))
      refine tracks.quiet closed (undocumented (by simp [kindAt, kind]))
        (congrArg Nat.succ tracks.lineNumber) closed ?_ rfl ⟨state.document.about, rfl⟩
      rw [attachedBlock, comments, blockText_lint _ kind]
      exact tracks.buffer
  | blank =>
      obtain ⟨about, closes, _⟩ := State.blankLine_eq { state with lineNumber := state.lineNumber + 1 }
      rw [closes]
      refine tracks.quiet closed (undocumented (by simp [kindAt, kind]))
        (congrArg Nat.succ tracks.lineNumber) closed ?_ rfl ⟨about, rfl⟩
      rw [attachedBlock_succ_closed (.inr (.inr (.inl kind)))]
      rfl
  | bareMarker =>
      have comments := commentsAbove_succ (by omega) reached (.inr (.inl kind))
      refine tracks.quiet closed (undocumented (by simp [kindAt, kind]))
        (congrArg Nat.succ tracks.lineNumber) closed ?_ rfl ⟨state.document.about, rfl⟩
      rw [attachedBlock, comments, blockText_break _ kind]
      simp only [Comment.Pending.appendBreak, tracks.buffer, attachedBlock, bufferOf]
      split <;> simp_all
  | comment =>
      have comments := commentsAbove_succ (by omega) reached (.inl kind)
      refine tracks.quiet closed (undocumented (by simp [kindAt, kind]))
        (congrArg Nat.succ tracks.lineNumber) closed ?_ rfl ⟨state.document.about, rfl⟩
      rw [attachedBlock, comments, blockText_comment _ kind]
      simp only [Comment.Pending.append, tracks.buffer, bufferOf_getD]
      simp [bufferOf, attachedBlock]
  | code =>
      cases documents : documented lines (k + 1) with
      | true => exact tracks.step_documented closed documents
      | false => exact tracks.step_undocumented closed kind documents

theorem step (tracks : Tracks lines k state) (found : lines[k]? = some line) :
    Tracks lines (k + 1) (state.step line) := by
  cases opened : state.openValue with
  | some value => exact tracks.step_open found opened
  | none =>
      cases k with
      | zero => exact tracks.step_first opened
      | succ k => exact tracks.step_scan found opened (Nat.succ_ne_zero k)

/-- The state after any number of lines agrees with the rule on them. -/
theorem after_take (title : Text) (lines : List Text) (k : Nat) (within : k ≤ lines.length) :
    Tracks lines k ((lines.take k).foldl State.step (State.start title)) := by
  induction k with
  | zero => exact Tracks.start title lines
  | succ k ih =>
      have found : lines[k]? = some lines[k] := List.getElem?_eq_getElem within
      rw [List.take_add_one, found, Option.toList_some, List.foldl_append]
      exact (ih (Nat.le_of_succ_le within)).step found

end Tracks

/-- The state after the first `k` lines. -/
def stateAfter (title : Text) (lines : List Text) (k : Nat) : State :=
  (lines.take k).foldl State.step (State.start title)

theorem stateAfter_succ (title : Text) {lines : List Text} {k : Nat} (within : k < lines.length) :
    stateAfter title lines (k + 1) = (stateAfter title lines k).step (lineAt lines (k + 1)) := by
  have found : lines[k]? = some lines[k] := List.getElem?_eq_getElem within
  rw [lineAt_of_getElem? found, stateAfter, List.take_add_one, found, Option.toList_some,
    List.foldl_append]
  rfl

theorem run_take (title : Text) (lines : List Text) (k : Nat) :
    run title (lines.take k) = (stateAfter title lines k).finish := rfl

theorem run_eq_finish (title : Text) (lines : List Text) :
    run title lines = (stateAfter title lines lines.length).finish := by
  rw [← run_take, List.take_length]

/-- Running a script computes what the rule says about its next line. -/
theorem swallowed_eq_run (title : Text) {lines : List Text} {k : Nat} (within : k ≤ lines.length) :
    swallowed lines (k + 1) =
      ((lines.take k).foldl State.step (State.start title)).openValue.isSome :=
  (Tracks.after_take title lines k within).swallowing.symm

theorem attachedBlock_eq_run (title : Text) {lines : List Text} {k : Nat} (within : k ≤ lines.length) :
    attachedBlock lines (k + 1) =
      ((lines.take k).foldl State.step (State.start title)).pending.take.1 :=
  (Tracks.after_take title lines k within).block.symm

/-- The entities of a script are those that the rule reads off its lines, one by one. -/
theorem run_holds (title : Text) (lines : List Text) :
    Holds (run title lines).document (entitiesUpTo lines lines.length) := by
  have tracks := Tracks.after_take title lines lines.length (Nat.le_refl _)
  rw [List.take_length] at tracks
  have holds := tracks.entities
  rw [List.drop_length] at holds
  rw [run, State.finish_document]
  exact holds

theorem State.completedBy_about (state : State) (rest : List Text) :
    (state.completedBy rest).about = state.document.about := by
  unfold State.completedBy
  cases state.openValue with
  | none => rfl
  | some value => exact withEntity_about _ _

/-- The about text, where there is one, is the cleaned block above some line. -/
theorem run_about {title : Text} {lines about : List Text}
    (found : (run title lines).document.about = some about) :
    about ≠ [] ∧ ∃ n, about = Comment.clean (attachedBlock lines n) := by
  have after : ∀ k ≤ lines.length, ∀ about,
      ((lines.take k).foldl State.step (State.start title)).document.about = some about →
        about ≠ [] ∧ ∃ n, about = Comment.clean (attachedBlock lines n) := by
    intro k
    induction k with
    | zero =>
        intro _ about found
        simp [State.start] at found
    | succ k ih =>
        intro within about found
        have line : lines[k]? = some lines[k] := List.getElem?_eq_getElem within
        rw [List.take_add_one, line, Option.toList_some, List.foldl_append] at found
        have tracks := Tracks.after_take title lines k (Nat.le_of_succ_le within)
        rcases State.step_about _ lines[k] with kept | ⟨closed, filled⟩
        · exact ih (Nat.le_of_succ_le within) about (kept.symm.trans found)
        · have same : some (Comment.clean (attachedBlock lines (k + 1))) = some about := by
            rw [← tracks.block]
            exact closed.symm.trans found
          rw [tracks.block] at filled
          cases same
          exact ⟨filled, k + 1, rfl⟩
  rw [run, State.finish_document, State.completedBy_about] at found
  exact after lines.length (Nat.le_refl _) about (by rw [List.take_length]; exact found)

/-- The lines on which the entities of a document stand. -/
def entityLines (document : Document) : List Nat :=
  document.constants.map Variable.line ++ document.vars.map Variable.line ++
    document.methods.map Method.line

theorem Holds.mem_entityLines {document : Document} {entities : List Entity}
    (holds : Holds document entities) (n : Nat) :
    n ∈ entityLines document ↔ ∃ entity ∈ entities, entity.line = n := by
  simp only [entityLines, holds.constants, holds.vars, holds.methods, List.mem_append, List.mem_map,
    List.mem_filterMap]
  constructor
  · rintro ((⟨found, ⟨entity, member, sort⟩, line⟩ | ⟨found, ⟨entity, member, sort⟩, line⟩) |
      ⟨found, ⟨entity, member, sort⟩, line⟩)
    · cases entity <;> simp_all [Entity.constant?]
      exact ⟨_, member, line⟩
    · cases entity <;> simp_all [Entity.var?]
      exact ⟨_, member, line⟩
    · cases entity <;> simp_all [Entity.method?]
      exact ⟨_, member, line⟩
  · rintro ⟨entity, member, line⟩
    cases entity with
    | constant found => exact .inl (.inl ⟨found, ⟨_, member, rfl⟩, line⟩)
    | var found => exact .inl (.inr ⟨found, ⟨_, member, rfl⟩, line⟩)
    | method found => exact .inr ⟨found, ⟨_, member, rfl⟩, line⟩

theorem extracted_of_mem_entityLines {document : Document} {lines : List Text} {n k : Nat}
    (holds : Holds document (entitiesUpTo lines k)) (member : n ∈ entityLines document) :
    Extracted lines n := by
  obtain ⟨entity, inside, line⟩ := (holds.mem_entityLines n).mp member
  obtain ⟨m, _, found⟩ := List.mem_filterMap.mp inside
  rw [← line, entityAt_line found]
  exact extracted_of_entityAt found

/-- Reading a script forwards with one state finds an entity on a line just where the rule, which looks
from that line upwards, says that there is one. -/
theorem extract_line_iff (title text : Text) (n : Nat) :
    n ∈ entityLines (extract title text).1 ↔ Extracted (Script.linesOf text) n := by
  have holds := run_holds title (Script.linesOf text)
  constructor
  · exact extracted_of_mem_entityLines holds
  · intro extracted
    obtain ⟨entity, found⟩ := entityAt_of_extracted extracted
    refine (holds.mem_entityLines n).mpr ⟨entity, List.mem_filterMap.mpr ⟨n, ?_, found⟩, entityAt_line found⟩
    exact List.mem_range.mpr (Nat.lt_succ_of_le extracted.within)

end ScriptDocs.Extraction
