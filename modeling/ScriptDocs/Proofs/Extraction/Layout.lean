import ScriptDocs.Proofs.Extraction.Tracking
import ScriptDocs.Proofs.Script

/-!
What a document does not depend on: what the first line says, how lines end, whether the last one ends
at all, and how far a line is indented. The first three leave the lines from the second on as they are.
Indentation changes the lines, so there the two scripts are read side by side: a line that is scanned
takes both to the same state, and the lines of an open value, where spaces count, stay the same.
-/

namespace ScriptDocs.Script

open Text (OneLine)

/-- Every text is one line, or a line that ends and the text after it. -/
theorem byLines {motive : Text → Prop} (last : ∀ line, OneLine line → motive line)
    (ended : ∀ line rest, OneLine line → motive rest → motive (line ++ '\n' :: rest)) (text : Text) :
    motive text := by
  by_cases newline : '\n' ∈ text
  · obtain ⟨line, rest, rfl, one⟩ := List.eq_append_cons_of_mem newline
    exact ended line rest one (byLines last ended rest)
  · exact last text newline
termination_by text.length
decreasing_by
  subst text
  simp only [List.length_append, List.length_cons]
  omega

theorem segments_oneLine {line : Text} (one : OneLine line) : Text.segments '\n' line = [line] := by
  apply Text.segmentsBy_unbroken
  intro c member
  rw [beq_eq_false_iff_ne]
  rintro rfl
  exact one member

theorem linesOf_oneLine_concat {line : Text} (one : OneLine line) :
    linesOf (line ++ ['\n']) = [dropReturn line] := by
  rw [linesOf_concat, segments_oneLine one]
  rfl

theorem linesOf_cons_line {line : Text} (one : OneLine line) (rest : Text) :
    linesOf (line ++ '\n' :: rest) = dropReturn line :: linesOf rest := by
  have ended : (line ++ ['\n']).getLast? = some '\n' := List.getLast?_concat
  have split := linesOf_append ended rest
  rw [List.append_assoc, List.singleton_append, linesOf_oneLine_concat one] at split
  exact split

theorem linesOf_end {text : Text} (filled : text ≠ []) (unended : text.getLast? ≠ some '\n') :
    linesOf (text ++ ['\n']) = linesOf text := by
  induction text using byLines with
  | last line one =>
      rw [linesOf_oneLine_concat one, linesOf, segments_oneLine one, dropFinalEmpty,
        List.isEmpty_eq_false_iff.mpr filled]
      rfl
  | ended line rest one ih =>
      have more : rest ≠ [] := by
        rintro rfl
        exact unended List.getLast?_concat
      have restUnended : rest.getLast? ≠ some '\n' := by
        obtain ⟨first, later, rfl⟩ := List.exists_cons_of_ne_nil more
        simpa using unended
      rw [List.append_assoc, List.cons_append, linesOf_cons_line one, linesOf_cons_line one,
        ih more restUnended]

/-- The second text has a carriage return more before some of the line feeds. -/
inductive Returned : Text → Text → Prop
  | last {line : Text} (one : OneLine line) : Returned line line
  | keep {line rest other : Text} (one : OneLine line) (returned : Returned rest other) :
      Returned (line ++ '\n' :: rest) (line ++ '\n' :: other)
  | insert {line rest other : Text} (one : OneLine line) (returned : Returned rest other) :
      Returned (line ++ '\n' :: rest) (line ++ '\r' :: '\n' :: other)

theorem Returned.refl (text : Text) : Returned text text := by
  induction text using byLines with
  | last line one => exact .last one
  | ended line rest one ih => exact .keep one ih

theorem unreturned_rest {line rest : Text}
    (unreturned : ∀ front back, line ++ '\n' :: rest ≠ front ++ '\r' :: '\n' :: back) :
    ∀ front back, rest ≠ front ++ '\r' :: '\n' :: back := by
  intro front back split
  apply unreturned (line ++ '\n' :: front) back
  rw [split, List.append_assoc, List.cons_append]

/-- A carriage return before a line feed belongs to the end of the line. -/
theorem linesOf_returned {text other : Text} (returned : Returned text other)
    (unreturned : ∀ front back, text ≠ front ++ '\r' :: '\n' :: back) :
    linesOf other = linesOf text := by
  induction returned with
  | last one => rfl
  | @keep line rest other one _ ih =>
      rw [linesOf_cons_line one, linesOf_cons_line one, ih (unreturned_rest unreturned)]
  | @insert line rest other one _ ih =>
      have noReturn : line.getLast? ≠ some '\r' := by
        intro ended
        obtain ⟨front, rfl⟩ := List.getLast?_eq_some_iff.mp ended
        exact unreturned front rest (by simp)
      have widened : OneLine (line ++ ['\r']) := one.append (by decide)
      have narrowed : dropReturn (line ++ ['\r']) = line := by simp [dropReturn]
      have regrouped : line ++ '\r' :: '\n' :: other = line ++ ['\r'] ++ '\n' :: other := by simp
      rw [regrouped, linesOf_cons_line widened, linesOf_cons_line one, narrowed,
        dropReturn_id noReturn, ih (unreturned_rest unreturned)]

theorem trimLeft_start (line : Text) : (Text.trimLeft ' ' line).head? ≠ some ' ' := by
  intro spaced
  have start := List.head?_dropWhile_not (· == ' ') line
  unfold Text.trimLeft at spaced
  rw [spaced] at start
  simp at start

theorem dropReturn_indented (count : Nat) (line : Text) :
    Text.trimLeft ' ' (dropReturn (List.replicate count ' ' ++ line)) =
      Text.trimLeft ' ' (dropReturn line) := by
  have spaces : (List.replicate count ' ').getLast? ≠ some '\r' := by
    rw [List.getLast?_replicate]
    split <;> simp
  have pushed : dropReturn (List.replicate count ' ' ++ line) =
      List.replicate count ' ' ++ dropReturn line := by
    rcases List.eq_nil_or_concat line with rfl | ⟨before, last, rfl⟩
    · rw [List.append_nil, dropReturn_id spaces]
      simp [dropReturn]
    · by_cases returned : last = '\r'
      · simp [dropReturn, returned]
      · rw [dropReturn_id (by simpa using returned), dropReturn_id (by simpa using returned)]
  rw [pushed, Text.trimLeft, Text.trimLeft, List.dropWhile_append_of_pos (by simp)]

/-- Lines that differ in leading spaces still do so without their ends. -/
theorem trimLeft_dropReturn {line other : Text} (same : Text.trimLeft ' ' other = Text.trimLeft ' ' line) :
    Text.trimLeft ' ' (dropReturn other) = Text.trimLeft ' ' (dropReturn line) := by
  obtain ⟨count, whole⟩ := (Text.trimLeft_eq_iff (trimLeft_start line)).mp rfl
  obtain ⟨countOther, wholeOther⟩ := (Text.trimLeft_eq_iff (trimLeft_start line)).mp same
  rw [whole, wholeOther, dropReturn_indented, dropReturn_indented]

end ScriptDocs.Script

namespace ScriptDocs.Extraction

open Text (OneLine)
open Script (Returned)

theorem extract_oneLine (title : Text) {text : Text} (one : OneLine text) :
    extract title text = ({ title }, []) := by
  unfold extract Script.linesOf
  rw [Script.segments_oneLine one]
  cases text with
  | nil => rfl
  | cons first rest => rfl

theorem run_first (title first other : Text) (lines : List Text) :
    run title (other :: lines) = run title (first :: lines) := by
  have closed : (State.start title).openValue = none := rfl
  rw [run, run, List.foldl_cons, List.foldl_cons, State.step_first closed rfl,
    State.step_first closed rfl]

theorem dropWhile_oneLine {line : Text} (one : OneLine line) (rest : Text) :
    (line ++ rest).dropWhile (· != '\n') = rest.dropWhile (· != '\n') := by
  apply List.dropWhile_append_of_pos
  intro c member
  rw [bne_iff_ne]
  rintro rfl
  exact one member

theorem extract_firstLine (title text : Text) {other : Text} (one : OneLine other) :
    extract title (other ++ text.dropWhile (· != '\n')) = extract title text := by
  by_cases newline : '\n' ∈ text
  · obtain ⟨line, rest, rfl, lineOne⟩ := List.eq_append_cons_of_mem newline
    have dropped : (line ++ '\n' :: rest).dropWhile (· != '\n') = '\n' :: rest :=
      dropWhile_oneLine lineOne ('\n' :: rest)
    rw [dropped, extract, extract, Script.linesOf_cons_line one, Script.linesOf_cons_line lineOne,
      run_first]
  · have dropped : text.dropWhile (· != '\n') = [] := by
      simpa using dropWhile_oneLine newline []
    rw [dropped, List.append_nil, extract_oneLine title one, extract_oneLine title newline]

/-- Scripts of one length whose lines differ in leading spaces, but not where an open value takes
them. -/
structure Indented (lines others : List Text) : Prop where
  sameLength : others.length = lines.length
  alike : ∀ n, 1 ≤ n → n ≤ lines.length →
    lineAt others n = lineAt lines n ∨
      swallowed lines n = false ∧ strippedAt others n = strippedAt lines n

theorem State.step_stripped {state : State} {line other : Text} (closed : state.openValue = none)
    (same : Text.trimLeft ' ' other = Text.trimLeft ' ' line) : state.step other = state.step line := by
  simp only [State.step, closed, same]

theorem Indented.stateAfter_eq (title : Text) {lines others : List Text}
    (indented : Indented lines others) {k : Nat} (within : k ≤ lines.length) :
    stateAfter title others k = stateAfter title lines k := by
  induction k with
  | zero => rfl
  | succ k ih =>
      have otherWithin : k < others.length := by rw [indented.sameLength]; exact within
      rw [stateAfter_succ title within, stateAfter_succ title otherWithin,
        ih (Nat.le_of_succ_le within)]
      rcases indented.alike (k + 1) (Nat.le_add_left 1 k) within with same | ⟨reached, stripped⟩
      · rw [same]
      · rw [swallowed_eq_run title (Nat.le_of_succ_le within), Option.isSome_eq_false_iff,
          Option.isNone_iff_eq_none] at reached
        exact State.step_stripped reached stripped

theorem Indented.run_eq (title : Text) {lines others : List Text} (indented : Indented lines others) :
    run title others = run title lines := by
  rw [run_eq_finish, run_eq_finish, indented.sameLength,
    indented.stateAfter_eq title (Nat.le_refl lines.length)]

/-- The second text has other numbers of spaces in front of some lines that the first text's reading
scans. Both texts end with the end of a line. -/
structure Reindented (text other : Text) : Prop where
  ended : text.getLast? = some '\n'
  otherEnded : other.getLast? = some '\n'
  sameLength : (Text.segments '\n' other).length = (Text.segments '\n' text).length
  alike : ∀ n, 1 ≤ n → n ≤ (Text.segments '\n' text).length →
    lineAt (Text.segments '\n' other) n = lineAt (Text.segments '\n' text) n ∨
      swallowed (Script.linesOf text) n = false ∧
        strippedAt (Text.segments '\n' other) n = strippedAt (Text.segments '\n' text) n

theorem lineAt_append {front back : List Text} {n : Nat} (within : n ≤ front.length) :
    lineAt (front ++ back) n = lineAt front n := by
  cases n with
  | zero => rfl
  | succ n => simp [lineAt, List.getElem?_append_left (Nat.lt_of_succ_le within)]

theorem lineAt_map {lines : List Text} {f : Text → Text} {n : Nat} (empty : f [] = []) :
    lineAt (lines.map f) n = f (lineAt lines n) := by
  cases n with
  | zero => exact empty.symm
  | succ n =>
      cases found : lines[n]? with
      | none => simp [lineAt, found, empty]
      | some line => simp [lineAt, found]

theorem Reindented.indented {text other : Text} (reindented : Reindented text other) :
    Indented (Script.linesOf text) (Script.linesOf other) := by
  obtain ⟨ended, otherEnded, sameLength, alike⟩ := reindented
  obtain ⟨front, rfl⟩ := List.getLast?_eq_some_iff.mp ended
  obtain ⟨otherFront, rfl⟩ := List.getLast?_eq_some_iff.mp otherEnded
  have split : ∀ text : Text, Text.segments '\n' (text ++ ['\n']) = Text.segments '\n' text ++ [[]] :=
    fun text => Text.segmentsBy_append (by decide) text []
  rw [split, split, List.length_append, List.length_append] at sameLength
  rw [split, split] at alike
  have sameFront : (Text.segments '\n' otherFront).length = (Text.segments '\n' front).length :=
    Nat.add_right_cancel sameLength
  rw [Script.linesOf_concat] at alike
  rw [Script.linesOf_concat, Script.linesOf_concat]
  refine ⟨by rw [List.length_map, List.length_map, sameFront], fun n past within => ?_⟩
  rw [List.length_map] at within
  have otherWithin : n ≤ (Text.segments '\n' otherFront).length := by rw [sameFront]; exact within
  have here := alike n past (by rw [List.length_append]; omega)
  simp only [strippedAt, lineAt_append within, lineAt_append otherWithin] at here
  simp only [strippedAt, lineAt_map (f := Script.dropReturn) rfl]
  rcases here with same | ⟨reached, stripped⟩
  · exact .inl (by rw [same])
  · exact .inr ⟨reached, Script.trimLeft_dropReturn stripped⟩

/-- The same script, laid out in another way. -/
inductive Relaid (text : Text) : Text → Prop
  | firstLine {other : Text} (one : OneLine other) :
      Relaid text (other ++ text.dropWhile (· != '\n'))
  | returns {other : Text} (unreturned : ∀ front back, text ≠ front ++ '\r' :: '\n' :: back)
      (returned : Returned text other) : Relaid text other
  | finalEnd (filled : text ≠ []) (unended : text.getLast? ≠ some '\n') : Relaid text (text ++ ['\n'])
  | indent {other : Text} (reindented : Reindented text other) : Relaid text other

/-- Layout decides nothing about the document, nor about what is left out. -/
theorem extract_relaid (title : Text) {text other : Text} (relaid : Relaid text other) :
    extract title other = extract title text := by
  cases relaid with
  | firstLine one => exact extract_firstLine title text one
  | returns unreturned returned => rw [extract, extract, Script.linesOf_returned returned unreturned]
  | finalEnd filled unended => rw [extract, extract, Script.linesOf_end filled unended]
  | indent reindented => rw [extract, extract, reindented.indented.run_eq title]

/-- A script with a value over two lines, the second of which starts with spaces. -/
def limitsText : Text :=
  "#!/bin/sh".toList ++ '\n' :: ("# Limits".toList ++ '\n' :: ("LIMITS=\"10".toList ++ '\n' ::
    "  20\"\n  # Shows them\n  show() (".toList))

def limitsReturned : Text :=
  "#!/bin/sh".toList ++ '\r' :: '\n' :: ("# Limits".toList ++ '\n' :: ("LIMITS=\"10".toList ++ '\r' ::
    '\n' :: "  20\"\n  # Shows them\n  show() (".toList))

def limitsReindented : Text :=
  "#!/bin/sh\n   # Limits\n LIMITS=\"10\n  20\"\n# Shows them\n    show() (\n".toList

theorem limits_reindented : Reindented (limitsText ++ ['\n']) limitsReindented := by
  have reached : ∀ k ∈ [1, 2, 4, 5],
      swallowed (Script.linesOf (limitsText ++ ['\n'])) (k + 1) = false := by
    intro k member
    have within : k ≤ (Script.linesOf (limitsText ++ ['\n'])).length := by
      revert k
      decide +kernel
    rw [swallowed_eq_run [] within]
    revert k
    decide +kernel
  have alike : ∀ k ∈ List.range 7,
      lineAt (Text.segments '\n' limitsReindented) (k + 1) =
          lineAt (Text.segments '\n' (limitsText ++ ['\n'])) (k + 1) ∨
        k ∈ [1, 2, 4, 5] ∧ strippedAt (Text.segments '\n' limitsReindented) (k + 1) =
          strippedAt (Text.segments '\n' (limitsText ++ ['\n'])) (k + 1) := by
    decide +kernel
  refine ⟨by decide +kernel, by decide +kernel, by decide +kernel, fun n past within => ?_⟩
  obtain ⟨k, rfl⟩ := Nat.exists_eq_add_of_le' past
  have segments : (Text.segments '\n' (limitsText ++ ['\n'])).length = 7 := by decide +kernel
  rcases alike k (List.mem_range.mpr (by omega)) with same | ⟨moved, stripped⟩
  · exact .inl same
  · exact .inr ⟨reached k moved, stripped⟩

theorem extract_relaid_limits :
    extract [] ("# no shell".toList ++ limitsText.dropWhile (· != '\n')) = extract [] limitsText ∧
    extract [] limitsReturned = extract [] limitsText ∧
    extract [] (limitsText ++ ['\n']) = extract [] limitsText ∧
    extract [] limitsReindented = extract [] (limitsText ++ ['\n']) ∧
    entityLines (extract [] limitsText).1 = [3, 6] ∧
    (extract [] limitsText).1.constants.map Variable.value = ["\"10  20\"".toList] := by
  have unreturned : ∀ front back, limitsText ≠ front ++ '\r' :: '\n' :: back := by
    intro front back same
    have absent : '\r' ∉ limitsText := by decide +kernel
    exact absent (by rw [same]; simp)
  have returned : Returned limitsText limitsReturned :=
    .insert (by decide) (.keep (by decide) (.insert (by decide) (.refl _)))
  exact ⟨extract_relaid [] (.firstLine (by decide)), extract_relaid [] (.returns unreturned returned),
    extract_relaid [] (.finalEnd (by decide) (by decide +kernel)),
    extract_relaid [] (.indent limits_reindented), by decide +kernel, by decide +kernel⟩

end ScriptDocs.Extraction
