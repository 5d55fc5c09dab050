import ScriptDocs.Proofs.Extraction.Privacy

namespace ScriptDocs.Extraction

/-!
The about text is the first comment block or nothing. Until the first block is closed nothing is
documented and no about text is set; the line that closes the block decides, and from then on every
state has the same about text. A first block that has no text left after cleaning uses the chance up.
-/

/-- The kind of a line once its leading spaces are gone. -/
def kindOf (line : Text) : Script.LineKind :=
  Script.lineKind (Text.trimLeft ' ' line)

/-- The lines from the first comment on. The first line of the script takes no part. -/
def fromFirstComment (lines : List Text) : List Text :=
  (lines.drop 1).dropWhile fun line => kindOf line != .comment

/-- The text of the first comment block, which goes on to the next line that is empty or code. -/
def firstBlock (lines : List Text) : List Text :=
  blockText (((fromFirstComment lines).takeWhile fun line => isCommentary (kindOf line)).map
    (Text.trimLeft ' '))

/-- The kind of the line that closes the first comment block, unless the script ends before. -/
def firstBlockEnd? (lines : List Text) : Option Script.LineKind :=
  ((fromFirstComment lines).dropWhile fun line => isCommentary (kindOf line)).head?.map kindOf

/-- What a script is about: its first comment block, if an empty line closes it and cleaning leaves
something of it. -/
def aboutOf (lines : List Text) : Option (List Text) :=
  if firstBlockEnd? lines = some .blank ∧ Comment.clean (firstBlock lines) ≠ [] then
    some (Comment.clean (firstBlock lines))
  else none

namespace State

variable {state : State} {line : Text}

theorem codeLine_pending (state : State) (line : Text) :
    (state.codeLine line).pending.aboutClaimed = state.pending.take.2.aboutClaimed := by
  rcases codeLine_cases state line with ⟨_, coded⟩ | ⟨_, _, _, coded⟩ | ⟨_, coded⟩ <;> rw [coded]

theorem blankLine_pending (state : State) : state.blankLine.pending = state.pending.take.2 := by
  obtain ⟨_, closes, _⟩ := blankLine_eq state
  rw [closes]

/-- Once a block was closed, no line changes the about text. -/
theorem step_claimed (claimed : state.pending.aboutClaimed = true) (line : Text) :
    (state.step line).pending.aboutClaimed = true ∧
      (state.step line).document.about = state.document.about := by
  have taken : state.pending.take.2.aboutClaimed = true := by simp [Comment.Pending.take, claimed]
  cases opened : state.openValue with
  | some value =>
      obtain ⟨_, document, notes, continued, _, sameAbout⟩ :=
        continueValue_frame { state with lineNumber := state.lineNumber + 1 } value line
      rw [step_open opened, continued]
      exact ⟨claimed, sameAbout⟩
  | none =>
      by_cases first : state.lineNumber = 0
      · rw [step_first opened first]
        exact ⟨claimed, rfl⟩
      · rw [step_scan opened first, scanLine]
        cases Script.lineKind (Text.trimLeft ' ' line) with
        | lintDirective => exact ⟨claimed, rfl⟩
        | blank =>
            dsimp only
            rw [blankLine_pending]
            exact ⟨taken, by simp [blankLine, claimed]⟩
        | bareMarker => exact ⟨claimed, rfl⟩
        | comment => exact ⟨claimed, rfl⟩
        | code =>
            dsimp only
            rw [codeLine_pending, codeLine_about]
            exact ⟨taken, rfl⟩

/-- A line that closes no block leaves the document and any open value as they were. -/
theorem step_unclaimed (closed : state.openValue = none) (line : Text) :
    (state.step line).pending.aboutClaimed = true ∨
      (state.step line).document = state.document ∧ (state.step line).openValue = none := by
  by_cases first : state.lineNumber = 0
  · rw [step_first closed first]
    exact .inr ⟨rfl, closed⟩
  · rw [step_scan closed first, scanLine]
    cases found : state.pending.buffer with
    | some block =>
        have taken : state.pending.take.2.aboutClaimed = true := by simp [Comment.Pending.take, found]
        cases Script.lineKind (Text.trimLeft ' ' line) with
        | lintDirective => exact .inr ⟨rfl, closed⟩
        | blank => exact .inl (by dsimp only; rw [blankLine_pending]; exact taken)
        | bareMarker => exact .inr ⟨rfl, closed⟩
        | comment => exact .inr ⟨rfl, closed⟩
        | code => exact .inl (by dsimp only; rw [codeLine_pending]; exact taken)
    | none =>
        have empty : state.pending.take.1 = [] := by simp [Comment.Pending.take, found]
        cases Script.lineKind (Text.trimLeft ' ' line) with
        | lintDirective => exact .inr ⟨rfl, closed⟩
        | blank => exact .inr ⟨by simp [blankLine, empty], by simp [blankLine, empty, closed]⟩
        | bareMarker => exact .inr ⟨rfl, closed⟩
        | comment => exact .inr ⟨rfl, closed⟩
        | code => exact .inr ⟨by simp [codeLine, empty], by simp [codeLine, empty, closed]⟩

end State

/-! ### Until the first block is closed -/

/-- No block was closed yet, `block` is the one that is open, and the document is as it started. -/
structure Unclaimed (block : List Text) (state : State) : Prop where
  past : state.lineNumber ≠ 0
  closed : state.openValue = none
  buffer : state.pending.buffer = bufferOf block
  unclaimed : state.pending.aboutClaimed = false
  undocumented : state.document.isValid = false
  silent : state.document.about = none

namespace Unclaimed

variable {block comments : List Text} {state : State} {line : Text}

theorem take (unclaimed : Unclaimed block state) : state.pending.take.1 = block := by
  simp [Comment.Pending.take, unclaimed.buffer]

theorem skip (unclaimed : Unclaimed [] state) (kind : kindOf line ≠ .comment) :
    Unclaimed [] (state.step line) := by
  have empty := unclaimed.take
  have noBuffer : state.pending.buffer = none := unclaimed.buffer
  rw [State.step_scan unclaimed.closed unclaimed.past, State.scanLine]
  obtain ⟨_, closed, _, unset, undocumented, silent⟩ := unclaimed
  cases found : Script.lineKind (Text.trimLeft ' ' line) with
  | lintDirective => exact ⟨Nat.succ_ne_zero _, closed, noBuffer, unset, undocumented, silent⟩
  | blank =>
      constructor <;>
        simp [State.blankLine, Comment.Pending.take, bufferOf, noBuffer, closed, unset, undocumented, silent]
  | bareMarker =>
      exact ⟨Nat.succ_ne_zero _, closed, by simp [Comment.Pending.appendBreak, noBuffer, bufferOf],
        unset, undocumented, silent⟩
  | comment => exact absurd found kind
  | code =>
      constructor <;>
        simp [State.codeLine, Comment.Pending.take, bufferOf, noBuffer, closed, unset, undocumented, silent]

theorem collect (unclaimed : Unclaimed (blockText comments) state)
    (commentary : isCommentary (kindOf line) = true) :
    Unclaimed (blockText (comments ++ [Text.trimLeft ' ' line])) (state.step line) := by
  rw [State.step_scan unclaimed.closed unclaimed.past, State.scanLine]
  obtain ⟨_, closed, buffer, unset, undocumented, silent⟩ := unclaimed
  cases found : Script.lineKind (Text.trimLeft ' ' line) with
  | lintDirective =>
      refine ⟨Nat.succ_ne_zero _, closed, ?_, unset, undocumented, silent⟩
      rw [blockText_lint _ found]
      exact buffer
  | bareMarker =>
      refine ⟨Nat.succ_ne_zero _, closed, ?_, unset, undocumented, silent⟩
      simp only [Comment.Pending.appendBreak, buffer, blockText_break _ found, bufferOf]
      split <;> simp_all
  | comment =>
      refine ⟨Nat.succ_ne_zero _, closed, ?_, unset, undocumented, silent⟩
      simp only [Comment.Pending.append, buffer, bufferOf_getD, blockText_comment _ found]
      simp [bufferOf]
  | blank => simp [kindOf, found, isCommentary] at commentary
  | code => simp [kindOf, found, isCommentary] at commentary

/-- An empty line makes the open block the about text, if cleaning leaves something of it. -/
theorem close_blank (unclaimed : Unclaimed block state) (filled : block ≠ [])
    (kind : kindOf line = .blank) :
    (state.step line).pending.aboutClaimed = true ∧
      (state.step line).document.about =
        if Comment.clean block ≠ [] then some (Comment.clean block) else none := by
  have buffer : state.pending.buffer = some block := by simp [unclaimed.buffer, bufferOf, filled]
  have blank : Script.lineKind (Text.trimLeft ' ' line) = .blank := kind
  rw [State.step_scan unclaimed.closed unclaimed.past, State.scanLine, blank]
  dsimp only
  rw [State.blankLine_pending]
  refine ⟨by simp [Comment.Pending.take, buffer], ?_⟩
  have chance : (!block.isEmpty && (!state.pending.aboutClaimed && !state.document.isValid)) = true := by
    simp [filled, unclaimed.unclaimed, unclaimed.undocumented]
  simp only [State.blankLine, Comment.Pending.take, buffer, Option.getD_some, chance, if_true,
    Document.setAbout]
  cases cleaned : Comment.clean block with
  | nil => simp [unclaimed.silent]
  | cons first rest => simp

theorem close_code (unclaimed : Unclaimed block state) (filled : block ≠ [])
    (kind : kindOf line = .code) :
    (state.step line).pending.aboutClaimed = true ∧ (state.step line).document.about = none := by
  have buffer : state.pending.buffer = some block := by simp [unclaimed.buffer, bufferOf, filled]
  have code : Script.lineKind (Text.trimLeft ' ' line) = .code := kind
  rw [State.step_scan unclaimed.closed unclaimed.past, State.scanLine, code]
  dsimp only
  rw [State.codeLine_pending, State.codeLine_about]
  exact ⟨by simp [Comment.Pending.take, buffer], unclaimed.silent⟩

theorem skip_all {lines : List Text} (unclaimed : Unclaimed [] state)
    (none : ∀ line ∈ lines, kindOf line ≠ .comment) :
    Unclaimed [] (lines.foldl State.step state) := by
  induction lines generalizing state with
  | nil => exact unclaimed
  | cons line rest ih =>
      exact ih (unclaimed.skip (none line (by simp)))
        (fun later member => none later (List.mem_cons_of_mem line member))

theorem collect_all {lines : List Text} (unclaimed : Unclaimed (blockText comments) state)
    (commentary : ∀ line ∈ lines, isCommentary (kindOf line) = true) :
    Unclaimed (blockText (comments ++ lines.map (Text.trimLeft ' '))) (lines.foldl State.step state) := by
  induction lines generalizing comments state with
  | nil => simpa using unclaimed
  | cons line rest ih =>
      have next := ih (unclaimed.collect (commentary line (by simp)))
        (fun later member => commentary later (List.mem_cons_of_mem line member))
      simpa using next

end Unclaimed

theorem blockText_filled {first : Text} (kind : Script.lineKind first = .comment) (rest : List Text) :
    blockText (first :: rest) ≠ [] := by
  simp [blockText, kind]

/-- After the first block is closed the rest of the script says nothing more about the script. -/
theorem foldl_claimed {state : State} (claimed : state.pending.aboutClaimed = true) (lines : List Text) :
    (lines.foldl State.step state).document.about = state.document.about := by
  induction lines generalizing state with
  | nil => rfl
  | cons line rest ih =>
      obtain ⟨still, same⟩ := State.step_claimed claimed line
      rw [List.foldl_cons, ih still, same]

theorem start_unclaimed (title first : Text) : Unclaimed [] ((State.start title).step first) := by
  rw [State.step_first rfl rfl]
  exact ⟨Nat.one_ne_zero, rfl, rfl, rfl, rfl, rfl⟩

theorem not_of_dropWhile {p : Text → Bool} {lines rest : List Text} {line : Text}
    (found : lines.dropWhile p = line :: rest) : p line = false := by
  have stops := List.head?_dropWhile_not p lines
  simpa [found] using stops

/-- The line that closes the open block decides what the script is about. -/
theorem Unclaimed.decide_about {block rest : List Text} {state : State} {closing : Text}
    (unclaimed : Unclaimed block state) (filled : block ≠ [])
    (closes : isCommentary (kindOf closing) = false) :
    ((closing :: rest).foldl State.step state).document.about =
      if kindOf closing = .blank ∧ Comment.clean block ≠ [] then some (Comment.clean block) else none := by
  rw [List.foldl_cons]
  cases kind : kindOf closing with
  | blank =>
      obtain ⟨claimed, about⟩ := unclaimed.close_blank filled kind
      rw [foldl_claimed claimed, about]
      simp
  | code =>
      obtain ⟨claimed, about⟩ := unclaimed.close_code filled kind
      rw [foldl_claimed claimed, about]
      simp
  | comment => simp [kind, isCommentary] at closes
  | bareMarker => simp [kind, isCommentary] at closes
  | lintDirective => simp [kind, isCommentary] at closes

theorem foldl_span (p : Text → Bool) (lines : List Text) (state : State) :
    lines.foldl State.step state =
      (lines.dropWhile p).foldl State.step ((lines.takeWhile p).foldl State.step state) := by
  rw [← List.foldl_append, List.takeWhile_append_dropWhile]

/-- Below the first line come the lines before any comment, then the first block, then the rest. -/
theorem foldl_firstBlock (title first : Text) (rest : List Text) :
    (rest.foldl State.step ((State.start title).step first)).document.about = aboutOf (first :: rest) := by
  have noComment : ∀ line ∈ rest.takeWhile (fun line => kindOf line != .comment),
      kindOf line ≠ .comment := by
    intro line member
    simpa using List.all_eq_true.mp List.all_takeWhile line member
  have skipped := (start_unclaimed title first).skip_all noComment
  have same : fromFirstComment (first :: rest) = rest.dropWhile fun line => kindOf line != .comment := rfl
  rw [foldl_span fun line => kindOf line != .comment, ← same]
  cases found : fromFirstComment (first :: rest) with
  | nil => simpa [aboutOf, firstBlockEnd?, found] using skipped.silent
  | cons comment more =>
      have kind : kindOf comment = .comment := by
        have stops := not_of_dropWhile (same.symm.trans found)
        simpa using stops
      have commentary : ∀ line ∈ (comment :: more).takeWhile (fun line => isCommentary (kindOf line)),
          isCommentary (kindOf line) = true :=
        fun line member => List.all_eq_true.mp List.all_takeWhile line member
      have nothing : Unclaimed (blockText []) _ := skipped
      have collected := nothing.collect_all commentary
      have filled : firstBlock (first :: rest) ≠ [] := by
        have taken : isCommentary (kindOf comment) = true := by rw [kind]; rfl
        simp only [firstBlock, found, List.takeWhile_cons, taken, if_true, List.map_cons]
        exact blockText_filled kind _
      rw [List.nil_append, ← found, ← firstBlock] at collected
      rw [foldl_span fun line => isCommentary (kindOf line), ← found]
      cases ended : (fromFirstComment (first :: rest)).dropWhile fun line => isCommentary (kindOf line) with
      | nil => simpa [aboutOf, firstBlockEnd?, ended] using collected.silent
      | cons closing later =>
          rw [collected.decide_about filled (not_of_dropWhile ended)]
          simp [aboutOf, firstBlockEnd?, ended]

theorem run_about_eq (title : Text) (lines : List Text) :
    (run title lines).document.about = aboutOf lines := by
  rw [run, State.finish_document, State.completedBy_about]
  cases lines with
  | nil => rfl
  | cons first rest => exact foldl_firstBlock title first rest

/-! ### In every state of a run -/

/-- What is documented, open or said about the script comes after the first closed block. -/
structure ClaimsFirst (state : State) : Prop where
  entities : state.document.isValid = true → state.pending.aboutClaimed = true
  openValue : state.openValue.isSome = true → state.pending.aboutClaimed = true
  about : state.document.about.isSome = true → state.pending.aboutClaimed = true

theorem ClaimsFirst.of_claimed {state : State} (claimed : state.pending.aboutClaimed = true) :
    ClaimsFirst state :=
  ⟨fun _ => claimed, fun _ => claimed, fun _ => claimed⟩

theorem ClaimsFirst.step {state : State} (first : ClaimsFirst state) (line : Text) :
    ClaimsFirst (state.step line) := by
  cases claimed : state.pending.aboutClaimed with
  | true => exact .of_claimed (State.step_claimed claimed line).1
  | false =>
      have closed : state.openValue = none := by
        cases opened : state.openValue with
        | none => rfl
        | some value => simpa [claimed] using first.openValue (by simp [opened])
      rcases State.step_unclaimed closed line with claims | ⟨document, stillClosed⟩
      · exact .of_claimed claims
      · refine ⟨fun valid => ?_, by simp [stillClosed], fun about => ?_⟩
        · rw [document] at valid
          simpa [claimed] using first.entities valid
        · rw [document] at about
          simpa [claimed] using first.about about

theorem claimsFirst_stateAfter (title : Text) (lines : List Text) (k : Nat) (within : k ≤ lines.length) :
    ClaimsFirst (stateAfter title lines k) := by
  induction k with
  | zero => constructor <;> simp [stateAfter, State.start, Document.isValid]
  | succ k ih =>
      rw [stateAfter_succ title within]
      exact (ih (Nat.le_of_succ_le within)).step _

/-- A line can only set the about text where there is none. -/
theorem about_stateAfter_succ (title : Text) {lines : List Text} {k : Nat} (within : k < lines.length)
    {about : List Text} (set : (stateAfter title lines k).document.about = some about) :
    (stateAfter title lines (k + 1)).document.about = some about := by
  have claimed := (claimsFirst_stateAfter title lines k (Nat.le_of_lt within)).about (by simp [set])
  rw [stateAfter_succ title within, (State.step_claimed claimed _).2, set]

theorem about_stateAfter_le (title : Text) {lines : List Text} {k m : Nat} (order : k ≤ m)
    (within : m ≤ lines.length) {about : List Text}
    (set : (stateAfter title lines k).document.about = some about) :
    (stateAfter title lines m).document.about = some about := by
  induction order with
  | refl => exact set
  | step order ih => exact about_stateAfter_succ title within (ih (Nat.le_of_succ_le within))

/-- Whether line `k + 1` changes the about text. -/
def setsAbout (title : Text) (lines : List Text) (k : Nat) : Prop :=
  (stateAfter title lines (k + 1)).document.about ≠ (stateAfter title lines k).document.about

theorem not_setsAbout_later (title : Text) {lines : List Text} {j k : Nat} (order : j < k)
    (within : k < lines.length) (earlier : setsAbout title lines j) : ¬ setsAbout title lines k := by
  intro later
  cases before : (stateAfter title lines j).document.about with
  | some about =>
      exact earlier ((about_stateAfter_succ title (by omega) before).trans before.symm)
  | none =>
      cases set : (stateAfter title lines (j + 1)).document.about with
      | none => exact earlier (set.trans before.symm)
      | some about =>
          have here := about_stateAfter_le title (show j + 1 ≤ k by omega) (Nat.le_of_lt within) set
          exact later ((about_stateAfter_succ title within here).trans here.symm)

theorem run_about_stateAfter (title : Text) (lines : List Text) :
    (run title lines).document.about = (stateAfter title lines lines.length).document.about := by
  rw [run_eq_finish, State.finish_document, State.completedBy_about]

theorem extract_about_firstBlock (title text : Text) :
    (extract title text).1.about = aboutOf (Script.linesOf text) ∧
    (∀ k ≤ (Script.linesOf text).length,
      (stateAfter title (Script.linesOf text) k).document.isValid = true →
        (stateAfter title (Script.linesOf text) k).pending.aboutClaimed = true) ∧
    (∀ j < (Script.linesOf text).length, ∀ k < (Script.linesOf text).length,
      setsAbout title (Script.linesOf text) j → setsAbout title (Script.linesOf text) k → j = k) ∧
    ∀ k m, k ≤ m → m ≤ (Script.linesOf text).length → ∀ about,
      (stateAfter title (Script.linesOf text) k).document.about = some about →
        (stateAfter title (Script.linesOf text) m).document.about = some about ∧
          (extract title text).1.about = some about := by
  refine ⟨run_about_eq title _, ?_, ?_, ?_⟩
  · intro k within valid
    exact (claimsFirst_stateAfter title _ k within).entities valid
  · intro j jWithin k kWithin jSets kSets
    rcases Nat.lt_trichotomy j k with before | same | after
    · exact absurd kSets (not_setsAbout_later title before kWithin jSets)
    · exact same
    · exact absurd jSets (not_setsAbout_later title after jWithin kSets)
  · intro k m order within about set
    refine ⟨about_stateAfter_le title order within set, ?_⟩
    have last := about_stateAfter_le title (Nat.le_trans order within) (Nat.le_refl _) set
    exact (run_about_stateAfter title _).trans last

/-- A script with an about text, a constant and a block that comes too late. -/
def portsText : Text :=
  "#!/bin/sh\n#\n# Ports of the service \n#\n\n# Default\nPORT=80\n\n# Late\n\n".toList

theorem extract_about_ports :
    (extract [] portsText).1.about = aboutOf (Script.linesOf portsText) ∧
    ((stateAfter [] (Script.linesOf portsText) 7).document.isValid = true ∧
      (stateAfter [] (Script.linesOf portsText) 7).pending.aboutClaimed = true) ∧
    (setsAbout [] (Script.linesOf portsText) 4 ∧
      ∀ k < (Script.linesOf portsText).length, setsAbout [] (Script.linesOf portsText) k → 4 = k) ∧
    (stateAfter [] (Script.linesOf portsText) 5).document.about =
        some ["Ports of the service".toList] ∧
      (stateAfter [] (Script.linesOf portsText) 9).document.about =
        some ["Ports of the service".toList] ∧
      (extract [] portsText).1.about = some ["Ports of the service".toList] := by
  have length : (Script.linesOf portsText).length = 10 := by decide +kernel
  obtain ⟨about, claims, once, kept⟩ := extract_about_firstBlock [] portsText
  have valid : (stateAfter [] (Script.linesOf portsText) 7).document.isValid = true := by decide +kernel
  have sets : setsAbout [] (Script.linesOf portsText) 4 := by
    unfold setsAbout
    decide +kernel
  have set : (stateAfter [] (Script.linesOf portsText) 5).document.about =
      some ["Ports of the service".toList] := by decide +kernel
  refine ⟨about, ⟨valid, claims 7 (by omega) valid⟩, ⟨sets, fun k within => ?_⟩, set,
    kept 5 9 (by omega) (by omega) _ set⟩
  exact once 4 (by omega) k within sets

end ScriptDocs.Extraction
