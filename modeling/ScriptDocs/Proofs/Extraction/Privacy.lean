import ScriptDocs.Proofs.Extraction.Tracking
import ScriptDocs.Proofs.Script

namespace ScriptDocs.Extraction

/-!
What a private block says and what undocumented code does leave no trace in the document. Two scripts
that differ only there are read in lockstep: the states differ in notes, and inside a private block in
its further lines, until the code line that closes the block makes them agree again.
-/

def isCommentary : Script.LineKind → Bool
  | .comment | .bareMarker | .lintDirective => true
  | .blank | .code => false

/-- The comments from line `n` on lead to a code line, with no empty line between. -/
def ClosedByCode (lines : List Text) (n : Nat) : Prop :=
  ∃ closing ≥ n, kindAt lines closing = .code ∧
    ∀ between ≥ n, between < closing → isCommentary (kindAt lines between) = true

/-- What may stand in the place of line `n` without being seen: other comments after the marker of a
private block that a code line closes, and other code where the block above is private or missing.
Only lines that are scanned can be replaced, not the first one nor those that an open value takes. -/
inductive Replaceable (lines : List Text) (n : Nat) (other : Text) : Prop
  | comment (past : 2 ≤ n) (reached : swallowed lines n = false)
      (marked : Comment.isPrivate (attachedBlock lines n) = true)
      (commentary : isCommentary (kindAt lines n) = true) (closed : ClosedByCode lines n)
      (replacement : isCommentary (Script.lineKind (Text.trimLeft ' ' other)) = true)
  | code (past : 2 ≤ n) (reached : swallowed lines n = false)
      (hidden : attachedBlock lines n = [] ∨ Comment.isPrivate (attachedBlock lines n) = true)
      (code : kindAt lines n = .code)
      (replacement : Script.lineKind (Text.trimLeft ' ' other) = .code)

/-- Two scripts of one length that differ only in lines that may be replaced. -/
structure DifferHidden (lines others : List Text) : Prop where
  sameLength : others.length = lines.length
  alike : ∀ n, 1 ≤ n → n ≤ lines.length →
    lineAt others n = lineAt lines n ∨ Replaceable lines n (lineAt others n)

/-! ### Notes are only written -/

namespace State

theorem addVariable_notes (state : State) (notes : List Note) (entity : Variable)
    (kind : Script.EntityKind) :
    ∃ after, { state with notes }.addVariable entity kind =
      { state.addVariable entity kind with notes := after } := by
  obtain ⟨_, left⟩ := addVariable_eq { state with notes } entity kind
  obtain ⟨_, right⟩ := addVariable_eq state entity kind
  exact ⟨_, by rw [left, right]⟩

theorem addMethod_notes (state : State) (notes : List Note) (method : Method) :
    ∃ after, { state with notes }.addMethod method = { state.addMethod method with notes := after } := by
  obtain ⟨_, left⟩ := addMethod_eq { state with notes } method
  obtain ⟨_, right⟩ := addMethod_eq state method
  exact ⟨_, by rw [left, right]⟩

theorem declareMethod_notes (state : State) (notes : List Note) (name : Text) (block : List Text) :
    ∃ after, { state with notes }.declareMethod name block =
      { state.declareMethod name block with notes := after } := by
  unfold declareMethod
  cases Comment.readMethod name block with
  | none => exact ⟨_, rfl⟩
  | some method => exact addMethod_notes state notes _

theorem declareVariable_notes (state : State) (notes : List Note) (kind : Script.EntityKind)
    (name value : Text) (block : List Text) :
    ∃ after, { state with notes }.declareVariable kind name value block =
      { state.declareVariable kind name value block with notes := after } := by
  unfold declareVariable
  cases state.pending.methodsSeen with
  | true => exact ⟨_, rfl⟩
  | false =>
      cases Comment.readVariable name value block with
      | none => exact ⟨_, rfl⟩
      | some found =>
          simp only [Bool.false_eq_true, if_false]
          split
          · exact ⟨_, rfl⟩
          · exact addVariable_notes state notes _ kind

theorem codeLine_notes (state : State) (notes : List Note) (line : Text) :
    ∃ after, { state with notes }.codeLine line = { state.codeLine line with notes := after } := by
  unfold codeLine
  dsimp only
  split
  · exact ⟨_, rfl⟩
  · cases Script.classify line with
    | unrecognized => exact ⟨_, rfl⟩
    | method name => exact declareMethod_notes { state with pending := state.pending.take.2 } notes name _
    | «variable» name value =>
        exact declareVariable_notes { state with pending := state.pending.take.2 } notes _ name value _
    | constant name value =>
        exact declareVariable_notes { state with pending := state.pending.take.2 } notes _ name value _

theorem scanLine_notes (state : State) (notes : List Note) (line : Text) :
    ∃ after, { state with notes }.scanLine line = { state.scanLine line with notes := after } := by
  unfold scanLine
  cases Script.lineKind line with
  | lintDirective => exact ⟨_, rfl⟩
  | blank =>
      unfold blankLine
      dsimp only
      split <;> exact ⟨_, rfl⟩
  | bareMarker => exact ⟨_, rfl⟩
  | comment => exact ⟨_, rfl⟩
  | code => exact codeLine_notes state notes line

theorem continueValue_notes (state : State) (notes : List Note) (value : OpenValue) (line : Text) :
    ∃ after, { state with notes }.continueValue value line =
      { state.continueValue value line with notes := after } := by
  unfold continueValue
  dsimp only
  split
  · exact addVariable_notes { state with openValue := none } notes _ value.kind
  · exact ⟨_, rfl⟩

/-- What has been noted never decides what a line does. -/
theorem step_notes (state : State) (notes : List Note) (line : Text) :
    ∃ after, { state with notes }.step line = { state.step line with notes := after } := by
  rcases Option.eq_none_or_eq_some state.openValue with closed | ⟨value, opened⟩
  · have closedToo : { state with notes }.openValue = none := closed
    by_cases first : state.lineNumber = 0
    · have firstToo : { state with notes }.lineNumber = 0 := first
      rw [step_first closed first, step_first closedToo firstToo]
      exact ⟨notes, rfl⟩
    · have pastToo : { state with notes }.lineNumber ≠ 0 := first
      rw [step_scan closed first, step_scan closedToo pastToo]
      exact scanLine_notes { state with lineNumber := state.lineNumber + 1 } notes _
  · have openedToo : { state with notes }.openValue = some value := opened
    rw [step_open opened, step_open openedToo]
    exact continueValue_notes { state with lineNumber := state.lineNumber + 1 } notes value line

/-- A comment line only adds to an open block, and the first line of the block stays. -/
theorem step_commentary {state : State} {line first : Text} {more : List Text}
    (closed : state.openValue = none) (past : state.lineNumber ≠ 0)
    (opened : state.pending.buffer = some (first :: more))
    (commentary : isCommentary (Script.lineKind (Text.trimLeft ' ' line)) = true) :
    ∃ longer, state.step line =
      { state with
        lineNumber := state.lineNumber + 1
        pending := { state.pending with buffer := some (first :: longer) } } := by
  rw [step_scan closed past, scanLine]
  cases kind : Script.lineKind (Text.trimLeft ' ' line) with
  | lintDirective => exact ⟨more, by simp only [← opened]⟩
  | bareMarker => exact ⟨more ++ [[]], by simp [Comment.Pending.appendBreak, opened]⟩
  | comment => exact ⟨more ++ [_], by simp [Comment.Pending.append, opened]; rfl⟩
  | blank => simp [kind, isCommentary] at commentary
  | code => simp [kind, isCommentary] at commentary

theorem step_hidden_code {state : State} {line : Text} (closed : state.openValue = none)
    (past : state.lineNumber ≠ 0)
    (hidden : state.pending.take.1 = [] ∨ Comment.isPrivate state.pending.take.1 = true)
    (code : Script.lineKind (Text.trimLeft ' ' line) = .code) :
    ∃ notes, state.step line =
      { state with lineNumber := state.lineNumber + 1, pending := state.pending.take.2, notes } := by
  rw [step_scan closed past, scanLine, code]
  apply codeLine_drops { state with lineNumber := state.lineNumber + 1 }
  rcases hidden with empty | marked
  · exact .inl empty
  · exact .inr (.inl marked)

end State

/-! ### Two runs in lockstep -/

/-- What an open private block may hold after its marker, one run and the other. -/
structure HiddenBlocks (lines : List Text) (n : Nat) (left right : Option (List Text)) : Prop where
  marked : ∃ marker, Comment.isPrivate [marker] = true ∧
    (∃ more, left = some (marker :: more)) ∧ ∃ more, right = some (marker :: more)
  closed : ClosedByCode lines n

/-- After the first `k` lines the two runs differ in notes alone, or also in what an open private
block holds that a code line is going to close. -/
structure Lockstep (lines : List Text) (k : Nat) (left right : State) : Prop where
  same : right = { left with
    pending := { left.pending with buffer := right.pending.buffer }, notes := right.notes }
  blocks : right.pending.buffer = left.pending.buffer ∨
    HiddenBlocks lines (k + 1) left.pending.buffer right.pending.buffer

theorem ClosedByCode.next {lines : List Text} {n : Nat} (closed : ClosedByCode lines n)
    (commentary : isCommentary (kindAt lines n) = true) : ClosedByCode lines (n + 1) := by
  obtain ⟨closing, below, code, between⟩ := closed
  have later : closing ≠ n := by
    rintro rfl
    rw [code] at commentary
    cases commentary
  exact ⟨closing, by omega, code, fun line above => between line (by omega)⟩

theorem ClosedByCode.kind {lines : List Text} {n : Nat} (closed : ClosedByCode lines n) :
    isCommentary (kindAt lines n) = true ∨ kindAt lines n = .code := by
  obtain ⟨closing, below, code, between⟩ := closed
  rcases Nat.lt_or_eq_of_le below with inside | rfl
  · exact .inl (between n (Nat.le_refl n) inside)
  · exact .inr code

theorem take_isPrivate {pending : Comment.Pending} {marker : Text} {more : List Text}
    (marked : Comment.isPrivate [marker] = true) (opened : pending.buffer = some (marker :: more)) :
    Comment.isPrivate pending.take.1 = true := by
  rw [Comment.Pending.take, opened]
  exact marked

namespace Tracks

variable {lines : List Text} {k : Nat} {state : State}

/-- Where a block is open, the next line is scanned. -/
theorem scans (tracks : Tracks lines k state) {block : List Text}
    (opened : state.pending.buffer = some block) :
    state.openValue = none ∧ state.lineNumber ≠ 0 := by
  have buffer := tracks.buffer
  rw [opened] at buffer
  constructor
  · cases closed : state.openValue with
    | none => rfl
    | some value =>
        have inside := tracks.swallowing
        rw [closed] at inside
        rw [attachedBlock_swallowed inside.symm] at buffer
        cases buffer
  · rw [tracks.lineNumber]
    rintro rfl
    have noBlock : attachedBlock lines 1 = [] := attachedBlock_succ_closed (.inl (Nat.zero_le 1))
    rw [noBlock] at buffer
    cases buffer

theorem marked (tracks : Tracks lines k state)
    (marked : Comment.isPrivate (attachedBlock lines (k + 1)) = true) :
    ∃ marker more, Comment.isPrivate [marker] = true ∧ state.pending.buffer = some (marker :: more) := by
  have buffer := tracks.buffer
  cases block : attachedBlock lines (k + 1) with
  | nil => simp [block, Comment.isPrivate] at marked
  | cons marker more =>
      rw [block] at buffer marked
      exact ⟨marker, more, marked, buffer⟩

theorem reads (tracks : Tracks lines k state) (past : 2 ≤ k + 1)
    (reached : swallowed lines (k + 1) = false) : state.openValue = none ∧ state.lineNumber ≠ 0 := by
  have closed := tracks.swallowing
  rw [reached, Option.isSome_eq_false_iff, Option.isNone_iff_eq_none] at closed
  exact ⟨closed, by rw [tracks.lineNumber]; omega⟩

end Tracks

namespace Lockstep

variable {lines : List Text} {k : Nat} {left right : State} {line other : Text}

theorem scans_too (lockstep : Lockstep lines k left right) (closed : left.openValue = none)
    (past : left.lineNumber ≠ 0) : right.openValue = none ∧ right.lineNumber ≠ 0 := by
  rw [lockstep.same]
  exact ⟨closed, past⟩

/-- Comments after the marker of a private block, whatever they say. -/
theorem comment (lockstep : Lockstep lines k left right) {marker : Text} {more others : List Text}
    (marked : Comment.isPrivate [marker] = true) (closed : left.openValue = none)
    (past : left.lineNumber ≠ 0) (leftBlock : left.pending.buffer = some (marker :: more))
    (rightBlock : right.pending.buffer = some (marker :: others))
    (leftKind : isCommentary (Script.lineKind (Text.trimLeft ' ' line)) = true)
    (rightKind : isCommentary (Script.lineKind (Text.trimLeft ' ' other)) = true)
    (closing : ClosedByCode lines (k + 2)) :
    Lockstep lines (k + 1) (left.step line) (right.step other) := by
  obtain ⟨closedToo, pastToo⟩ := lockstep.scans_too closed past
  obtain ⟨longer, leftStep⟩ := State.step_commentary closed past leftBlock leftKind
  obtain ⟨longerToo, rightStep⟩ := State.step_commentary closedToo pastToo rightBlock rightKind
  rw [leftStep, rightStep]
  refine ⟨?_, .inr ⟨⟨marker, marked, ⟨longer, rfl⟩, ⟨longerToo, rfl⟩⟩, closing⟩⟩
  rw [lockstep.same]

/-- Code that no shown comment documents, whatever it does. -/
theorem code (lockstep : Lockstep lines k left right) (closed : left.openValue = none)
    (past : left.lineNumber ≠ 0)
    (leftHidden : left.pending.take.1 = [] ∨ Comment.isPrivate left.pending.take.1 = true)
    (rightHidden : right.pending.take.1 = [] ∨ Comment.isPrivate right.pending.take.1 = true)
    (bothOpen : right.pending.buffer.isSome = left.pending.buffer.isSome)
    (leftKind : Script.lineKind (Text.trimLeft ' ' line) = .code)
    (rightKind : Script.lineKind (Text.trimLeft ' ' other) = .code) :
    Lockstep lines (k + 1) (left.step line) (right.step other) := by
  obtain ⟨closedToo, pastToo⟩ := lockstep.scans_too closed past
  obtain ⟨notes, leftStep⟩ := State.step_hidden_code closed past leftHidden leftKind
  obtain ⟨notesToo, rightStep⟩ := State.step_hidden_code closedToo pastToo rightHidden rightKind
  have sameTaken : right.pending.take.2 = left.pending.take.2 := by
    simp only [Comment.Pending.take, bothOpen]
    rw [lockstep.same]
  rw [leftStep, rightStep]
  refine ⟨?_, .inl (congrArg Comment.Pending.buffer sameTaken)⟩
  simp only [sameTaken]
  rw [lockstep.same]

/-- A line that both scripts share. -/
theorem shared (lockstep : Lockstep lines k left right) (tracks : Tracks lines k left)
    (here : lineAt lines (k + 1) = line) :
    Lockstep lines (k + 1) (left.step line) (right.step line) := by
  rcases lockstep.blocks with sameBuffer | ⟨hiddenBlocks, closing⟩
  · have onlyNotes : right = { left with notes := right.notes } := by
      have same := lockstep.same
      rw [sameBuffer] at same
      exact same
    obtain ⟨after, stepped⟩ := State.step_notes left right.notes line
    rw [← onlyNotes] at stepped
    rw [stepped]
    exact ⟨rfl, .inl rfl⟩
  · -- inside a private block a shared line can be a comment or the closing code, nothing else
    obtain ⟨marker, marked, ⟨more, leftBlock⟩, others, rightBlock⟩ := hiddenBlocks
    obtain ⟨closed, past⟩ := tracks.scans leftBlock
    have kind : kindAt lines (k + 1) = Script.lineKind (Text.trimLeft ' ' line) := by rw [← here]; rfl
    rcases closing.kind with commentary | code
    · exact lockstep.comment marked closed past leftBlock rightBlock (kind ▸ commentary)
        (kind ▸ commentary) (closing.next commentary)
    · apply lockstep.code closed past _ _ _ (kind ▸ code) (kind ▸ code)
      · exact .inr (take_isPrivate marked leftBlock)
      · exact .inr (take_isPrivate marked rightBlock)
      · rw [leftBlock, rightBlock]; rfl

/-- A line that is not seen, in the place of another. -/
theorem replaced (lockstep : Lockstep lines k left right) (tracks : Tracks lines k left)
    (here : lineAt lines (k + 1) = line) (replaceable : Replaceable lines (k + 1) other) :
    Lockstep lines (k + 1) (left.step line) (right.step other) := by
  have kind : kindAt lines (k + 1) = Script.lineKind (Text.trimLeft ' ' line) := by rw [← here]; rfl
  cases replaceable with
  | comment past reached marked commentary closing replacement =>
      obtain ⟨closed, read⟩ := tracks.reads past reached
      obtain ⟨marker, more, markedFirst, leftBlock⟩ := tracks.marked marked
      -- the two blocks share their marker, also when earlier lines have set them apart
      have rightBlock : ∃ others, right.pending.buffer = some (marker :: others) := by
        rcases lockstep.blocks with same | ⟨⟨_, _, ⟨_, leftToo⟩, others, right⟩, _⟩
        · exact ⟨more, same.trans leftBlock⟩
        · rw [leftBlock] at leftToo
          cases leftToo
          exact ⟨others, right⟩
      obtain ⟨others, rightBlock⟩ := rightBlock
      exact lockstep.comment markedFirst closed read leftBlock rightBlock (kind ▸ commentary)
        replacement (closing.next commentary)
  | code past reached hidden code replacement =>
      obtain ⟨closed, read⟩ := tracks.reads past reached
      rw [← tracks.block] at hidden
      rcases lockstep.blocks with same | ⟨⟨marker, marked, ⟨_, leftBlock⟩, _, rightBlock⟩, _⟩
      · apply lockstep.code closed read hidden _ (by rw [same]) (kind ▸ code) replacement
        have sameBlock : right.pending.take.1 = left.pending.take.1 := by
          simp only [Comment.Pending.take, same]
        rw [sameBlock]
        exact hidden
      · apply lockstep.code closed read hidden _ _ (kind ▸ code) replacement
        · exact .inr (take_isPrivate marked rightBlock)
        · rw [leftBlock, rightBlock]; rfl

theorem after_take (title : Text) {lines others : List Text} (differ : DifferHidden lines others)
    (k : Nat) (within : k ≤ lines.length) :
    Lockstep lines k ((lines.take k).foldl State.step (State.start title))
      ((others.take k).foldl State.step (State.start title)) := by
  induction k with
  | zero => exact ⟨rfl, .inl rfl⟩
  | succ k ih =>
      have sameLength := differ.sameLength
      have lockstep := ih (by omega)
      have tracks := Tracks.after_take title lines k (by omega)
      have found : lines[k]? = some lines[k] := List.getElem?_eq_getElem (by omega)
      have foundToo : others[k]? = some others[k] := List.getElem?_eq_getElem (by omega)
      have here := lineAt_of_getElem? found
      have hereToo := lineAt_of_getElem? foundToo
      rw [List.take_succ_eq_append_getElem (by omega), List.take_succ_eq_append_getElem (by omega),
        List.foldl_append, List.foldl_append]
      rcases differ.alike (k + 1) (by omega) within with same | replaceable
      · rw [hereToo, here] at same
        rw [same]
        exact lockstep.shared tracks here
      · rw [hereToo] at replaceable
        exact lockstep.replaced tracks here replaceable

end Lockstep

/-- Scripts that differ only in hidden lines have the same document. -/
theorem extract_hides (title : Text) {text other : Text}
    (differ : DifferHidden (Script.linesOf text) (Script.linesOf other)) :
    (extract title other).1 = (extract title text).1 := by
  have lockstep := Lockstep.after_take title differ _ (Nat.le_refl _)
  rw [List.take_length, ← differ.sameLength, List.take_length] at lockstep
  have left := State.finish_document ((Script.linesOf text).foldl State.step (State.start title))
  have right := State.finish_document ((Script.linesOf other).foldl State.step (State.start title))
  simp only [extract, run, left, right]
  rw [lockstep.same]
  rfl

/-- A script with a private variable, and a body that no comment documents. -/
def keyLines : List Text :=
  ["#!/bin/sh".toList, "# private".toList, "# The key.".toList, "key=\"abc".toList,
    "# Says hi.".toList, "hi() (".toList, "  echo hi".toList]

/-- The same with a private function in place of the variable, and another body. -/
def helperLines : List Text :=
  ["#!/bin/sh".toList, "# private".toList, "#".toList, "helper() (".toList,
    "# Says hi.".toList, "hi() (".toList, "  word=\"hi".toList]

theorem differHidden_keyLines :
    DifferHidden keyLines helperLines where
  sameLength := by decide
  alike := by
    have comment : Replaceable keyLines 3 (lineAt helperLines 3) := by
      refine .comment (by decide) ?_ ?_ (by decide) ⟨4, by decide, by decide, ?_⟩ (by decide)
      · rw [swallowed_eq_run [] (by decide)]
        decide +kernel
      · rw [attachedBlock_eq_run [] (by decide)]
        decide +kernel
      · intro between above below
        obtain rfl : between = 3 := by omega
        decide +kernel
    have closing : Replaceable keyLines 4 (lineAt helperLines 4) := by
      refine .code (by decide) ?_ (.inr ?_) (by decide) (by decide)
      · rw [swallowed_eq_run [] (by decide)]
        decide +kernel
      · rw [attachedBlock_eq_run [] (by decide)]
        decide +kernel
    have body : Replaceable keyLines 7 (lineAt helperLines 7) := by
      refine .code (by decide) ?_ (.inl ?_) (by decide) (by decide)
      · rw [swallowed_eq_run [] (by decide)]
        decide +kernel
      · rw [attachedBlock_eq_run [] (by decide)]
        decide +kernel
    intro n first within
    have bound : n ≤ 7 := within
    match n, first, bound with
    | 1, _, _ | 2, _, _ | 5, _, _ | 6, _, _ => exact .inl (by decide)
    | 3, _, _ => exact .inr comment
    | 4, _, _ => exact .inr closing
    | 7, _, _ => exact .inr body

theorem extract_hides_key :
    keyLines ≠ helperLines ∧
      (extract [] (Script.textOf helperLines)).1 = (extract [] (Script.textOf keyLines)).1 := by
  have keyRead : Script.linesOf (Script.textOf keyLines) = keyLines := Script.linesOf_textOf (by decide)
  have helperRead : Script.linesOf (Script.textOf helperLines) = helperLines :=
    Script.linesOf_textOf (by decide)
  refine ⟨by decide, extract_hides [] ?_⟩
  rw [keyRead, helperRead]
  exact differHidden_keyLines

end ScriptDocs.Extraction
