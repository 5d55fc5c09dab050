import ScriptDocs.Proofs.Extraction.Resumption

namespace ScriptDocs.Extraction

/-!
A lint directive is invisible wherever it is put, as long as it is scanned: no block is closed or
opened by it and nothing of it is collected. A script with one more directive is read as before, only
that everything below stands one line further down.
-/

/-- Where a line comes to stand when another is put in below line `k`. -/
def pushedBelow (k n : Nat) : Nat :=
  if n ≤ k then n else n + 1

theorem renumbered_of_fixed {document : Document} {number : Nat → Nat}
    (fixed : ∀ n ∈ entityLines document, number n = n) : document.renumbered number = document := by
  simp only [entityLines, List.mem_append, List.mem_map] at fixed
  have constants : document.constants.map (Variable.renumbered number) = document.constants.map id := by
    refine List.map_congr_left (fun entity member => ?_)
    rw [Variable.renumbered, fixed _ (.inl (.inl ⟨entity, member, rfl⟩))]
    rfl
  have vars : document.vars.map (Variable.renumbered number) = document.vars.map id := by
    refine List.map_congr_left (fun entity member => ?_)
    rw [Variable.renumbered, fixed _ (.inl (.inr ⟨entity, member, rfl⟩))]
    rfl
  have methods : document.methods.map (Method.renumbered number) = document.methods.map id := by
    refine List.map_congr_left (fun method member => ?_)
    rw [Method.renumbered, fixed _ (.inr ⟨method, member, rfl⟩)]
    rfl
  simp only [Document.renumbered, constants, vars, methods, List.map_id]

namespace State

theorem foldl_notes (state : State) (notes : List Note) (lines : List Text) :
    ∃ after, lines.foldl step { state with notes } = { lines.foldl step state with notes := after } := by
  induction lines generalizing state notes with
  | nil => exact ⟨notes, rfl⟩
  | cons line rest ih =>
      obtain ⟨after, stepped⟩ := step_notes state notes line
      rw [List.foldl_cons, stepped]
      exact ih (state.step line) after

/-- What was noted before decides nothing about the document. -/
theorem finish_foldl_notes (state : State) (notes : List Note) (lines : List Text) :
    (lines.foldl step { state with notes }).finish.document = (lines.foldl step state).finish.document := by
  obtain ⟨after, read⟩ := foldl_notes state notes lines
  rw [read, finish_document, finish_document]
  rfl

theorem step_lintDirective {state : State} {line : Text} (closed : state.openValue = none)
    (past : state.lineNumber ≠ 0) (lint : kindOf line = .lintDirective) :
    state.step line = { state with lineNumber := state.lineNumber + 1 } := by
  have kind : Script.lineKind (Text.trimLeft ' ' line) = .lintDirective := lint
  rw [step_scan closed past, scanLine, kind]

end State

theorem entityLines_stateAfter (title : Text) {lines : List Text} {k : Nat} (within : k ≤ lines.length)
    (closed : (stateAfter title lines k).openValue = none) :
    ∀ n ∈ entityLines (stateAfter title lines k).document, n ≤ k := by
  intro n member
  have tracks : Tracks lines k (stateAfter title lines k) := Tracks.after_take title lines k within
  have holds := tracks.entities
  simp only [State.completedBy, closed] at holds
  obtain ⟨entity, listed, line⟩ := (holds.mem_entityLines n).mp member
  obtain ⟨m, below, found⟩ := List.mem_filterMap.mp listed
  have number := entityAt_line found
  have bound := List.mem_range.mp below
  omega

/-- Behind nothing, a state is placed by other line numbers alone. -/
theorem placed_start_document {title : Text} {state : State} (titled : state.document.title = title)
    (number : Nat → Nat) :
    (State.placed (State.start title) number state).document = state.document.renumbered number := by
  simp [State.placed, State.start, Document.renumbered, titled]

/-- Up to line `k` nothing stands further down. -/
theorem placed_pushedBelow (title : Text) {lines : List Text} {k : Nat} (within : k ≤ lines.length)
    (closed : (stateAfter title lines k).openValue = none) (lineNumber : Nat) :
    ∃ notes, { stateAfter title lines k with lineNumber } =
      { State.placed (State.start title) (pushedBelow k) (stateAfter title lines k) with
        lineNumber, notes } := by
  have titled : (stateAfter title lines k).document.title = title :=
    (State.foldl_keeps (State.start title) (lines.take k)).title
  have fixed : ∀ n ∈ entityLines (stateAfter title lines k).document, pushedBelow k n = n :=
    fun n member => if_pos (entityLines_stateAfter title within closed n member)
  have sameDocument := placed_start_document titled (pushedBelow k)
  rw [renumbered_of_fixed fixed] at sameDocument
  refine ⟨(stateAfter title lines k).notes, ?_⟩
  simp only [sameDocument]
  simp [State.placed, State.start, closed]

theorem run_insert_lint (title : Text) {lines : List Text} {k : Nat} (past : 1 ≤ k)
    (within : k ≤ lines.length) (reached : swallowed lines (k + 1) = false) {lint : Text}
    (directive : kindOf lint = .lintDirective) :
    (run title (lines.take k ++ lint :: lines.drop k)).document =
      (run title lines).document.renumbered (pushedBelow k) := by
  have tracks : Tracks lines k (stateAfter title lines k) := Tracks.after_take title lines k within
  have numbered := tracks.lineNumber
  have closed : (stateAfter title lines k).openValue = none := by
    have swallowing := tracks.swallowing
    rw [reached] at swallowing
    simpa using swallowing
  have pastState : (stateAfter title lines k).lineNumber ≠ 0 := by omega
  have whole : run title lines = ((lines.drop k).foldl State.step (stateAfter title lines k)).finish := by
    rw [stateAfter, ← List.foldl_append, List.take_append_drop, run]
  have longer : run title (lines.take k ++ lint :: lines.drop k) =
      ((lines.drop k).foldl State.step
        { stateAfter title lines k with lineNumber := k + 1 }).finish := by
    rw [run, List.foldl_append, ← stateAfter, List.foldl_cons,
      State.step_lintDirective closed pastState directive, numbered]
  have first : ClaimsFirst (State.start title) := by
    constructor <;> simp [State.start, Document.isValid]
  have next : pushedBelow k ((stateAfter title lines k).lineNumber + 1) = (k + 1) + 1 := by
    simp [pushedBelow, numbered]
  have consecutive : ∀ n, (stateAfter title lines k).lineNumber < n →
      pushedBelow k (n + 1) = pushedBelow k n + 1 := by
    intro n below
    simp only [pushedBelow]
    split <;> split <;> omega
  obtain ⟨notes, pushed⟩ := placed_pushedBelow title within closed (k + 1)
  have placedRun := State.finish_foldl_placed first pastState (Nat.succ_ne_zero k) next consecutive
    (lines.drop k)
  rw [← whole, placed_start_document (run_title title lines)] at placedRun
  rw [longer, pushed]
  exact (State.finish_foldl_notes _ notes (lines.drop k)).trans placedRun

/-- A lint directive below line `k` moves what stands further down and changes nothing else. -/
theorem extract_insert_lint (title : Text) {lines : List Text} (one : ∀ line ∈ lines, Text.OneLine line)
    {k : Nat} (past : 1 ≤ k) (within : k ≤ lines.length)
    (reached : swallowed (Script.linesOf (Script.textOf lines)) (k + 1) = false) {lint : Text}
    (oneLint : Text.OneLine lint) (directive : kindOf lint = .lintDirective) :
    (extract title (Script.textOf (lines.take k ++ lint :: lines.drop k))).1 =
      (extract title (Script.textOf lines)).1.renumbered (fun n => if n ≤ k then n else n + 1) := by
  have oneInserted : ∀ line ∈ lines.take k ++ lint :: lines.drop k, Text.OneLine line := by
    intro line member
    rcases List.mem_append.mp member with above | below
    · exact one line (List.mem_of_mem_take above)
    · rcases List.mem_cons.mp below with rfl | later
      · exact oneLint
      · exact one line (List.mem_of_mem_drop later)
  rw [Script.linesOf_textOf_dropReturn one] at reached
  have inserted := run_insert_lint title past (by simpa using within) reached
    (Script.lineKind_lintDirective_dropReturn directive)
  rw [extract, extract, Script.linesOf_textOf_dropReturn one, Script.linesOf_textOf_dropReturn oneInserted,
    List.map_append, List.map_cons, List.map_take, List.map_drop]
  exact inserted

/-- A script with a value over two lines between comments. -/
def portsLines : List Text :=
  ["#!/bin/sh".toList, "# Ports".toList, "PORTS=\"80".toList, "443\"".toList, "# Opens".toList,
    "# them.".toList, "open_ports() (".toList]

theorem extract_insert_lint_ports :
    swallowed (Script.linesOf (Script.textOf portsLines)) 6 = false ∧
    kindOf "  # shellcheck  disable=SC2034\r".toList = .lintDirective ∧
    (extract [] (Script.textOf (portsLines.take 5 ++
      "  # shellcheck  disable=SC2034\r".toList :: portsLines.drop 5))).1 =
      (extract [] (Script.textOf portsLines)).1.renumbered (fun n => if n ≤ 5 then n else n + 1) ∧
    entityLines (extract [] (Script.textOf portsLines)).1 = [3, 7] := by
  have one : ∀ line ∈ portsLines, Text.OneLine line := by decide
  have reached : swallowed (Script.linesOf (Script.textOf portsLines)) 6 = false := by
    rw [swallowed_eq_run [] (by decide +kernel)]
    decide +kernel
  have directive : kindOf "  # shellcheck  disable=SC2034\r".toList = .lintDirective := by decide
  exact ⟨reached, directive,
    extract_insert_lint [] one (by decide) (by decide) reached (by decide) directive, by decide +kernel⟩

end ScriptDocs.Extraction
