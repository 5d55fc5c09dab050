import ScriptDocs.Proofs.Text
import ScriptDocs.Script.Declaration
import ScriptDocs.Script.LineKind
import ScriptDocs.Script.Lines

namespace ScriptDocs.Script

open Text (OneLine)

/-!
Lines and declarations, said without the scans that find them. A line is a text of one line; a
declaration is a decomposition of its line into a name and what follows, and a line has at most one.
-/

theorem dropFinalEmpty_subset (segments : List Text) : dropFinalEmpty segments ⊆ segments := by
  induction segments with
  | nil => exact List.Subset.refl _
  | cons segment rest ih =>
      cases rest with
      | nil =>
          unfold dropFinalEmpty
          split
          · exact List.nil_subset _
          · exact List.Subset.refl _
      | cons next rest => exact List.cons_subset_cons segment ih

theorem dropReturn_subset (line : Text) : dropReturn line ⊆ line := by
  unfold dropReturn
  split
  · rename_i before reversed
    intro char member
    rw [← List.mem_reverse, reversed]
    exact List.mem_cons_of_mem _ (List.mem_reverse.mp member)
  · exact List.Subset.refl _

theorem linesOf_oneLine {text line : Text} (member : line ∈ linesOf text) : OneLine line := by
  obtain ⟨segment, kept, rfl⟩ := List.mem_map.mp member
  have inside := dropFinalEmpty_subset _ kept
  have one : OneLine segment := fun newline => by
    have apart := (Text.mem_segmentsBy inside '\n' newline).2
    simp at apart
  exact one.of_subset (dropReturn_subset segment)

/-- Lines as the text of a script, each ended by a line feed. -/
def textOf (lines : List Text) : Text :=
  lines.flatMap (· ++ ['\n'])

/-- A text that a line can hold: a final carriage return would count as part of the line's end. -/
structure FitsLine (line : Text) : Prop where
  oneLine : OneLine line
  noReturn : line.getLast? ≠ some '\r'

instance (line : Text) : Decidable (FitsLine line) :=
  decidable_of_iff (OneLine line ∧ line.getLast? ≠ some '\r')
    ⟨fun ⟨one, noReturn⟩ => ⟨one, noReturn⟩, fun fits => ⟨fits.oneLine, fits.noReturn⟩⟩

theorem dropReturn_id {line : Text} (noReturn : line.getLast? ≠ some '\r') : dropReturn line = line := by
  unfold dropReturn
  split
  · rename_i before reversed
    rw [List.getLast?_eq_head?_reverse, reversed] at noReturn
    exact absurd rfl noReturn
  · rfl

theorem dropFinalEmpty_append (front : List Text) {back : List Text} (filled : back ≠ []) :
    dropFinalEmpty (front ++ back) = front ++ dropFinalEmpty back := by
  induction front with
  | nil => rfl
  | cons segment rest ih =>
      have more : rest ++ back ≠ [] := by simp [filled]
      obtain ⟨next, later, split⟩ := List.exists_cons_of_ne_nil more
      rw [List.cons_append, split, dropFinalEmpty, ← split, ih, List.cons_append]
      simp

theorem dropFinalEmpty_append_nil (lines : List Text) : dropFinalEmpty (lines ++ [[]]) = lines := by
  rw [dropFinalEmpty_append lines (by simp)]
  exact List.append_nil lines

theorem segments_textOf {lines : List Text} (one : ∀ line ∈ lines, OneLine line) :
    Text.segments '\n' (textOf lines) = lines ++ [[]] := by
  unfold Text.segments
  induction lines with
  | nil => rfl
  | cons line rest ih =>
      have unbroken : ∀ c ∈ line, (c == '\n') = false := by
        intro c member
        rw [beq_eq_false_iff_ne]
        rintro rfl
        exact one line (by simp) member
      have written : textOf (line :: rest) = line ++ '\n' :: textOf rest := by simp [textOf]
      rw [written, Text.segmentsBy_append (by decide), Text.segmentsBy_unbroken unbroken,
        ih (fun later member => one later (List.mem_cons_of_mem line member))]
      rfl

/-- Lines that are written with an end of their own come back without a final carriage return. -/
theorem linesOf_textOf_dropReturn {lines : List Text} (one : ∀ line ∈ lines, OneLine line) :
    linesOf (textOf lines) = lines.map dropReturn := by
  rw [linesOf, segments_textOf one, dropFinalEmpty_append_nil]

theorem linesOf_concat (front : Text) :
    linesOf (front ++ ['\n']) = (Text.segments '\n' front).map dropReturn := by
  have split : Text.segments '\n' (front ++ ['\n']) = Text.segments '\n' front ++ [[]] :=
    Text.segmentsBy_append (by decide) front []
  rw [linesOf, split, dropFinalEmpty_append_nil]

/-- After a line feed the lines of a text go on with those of what is appended. -/
theorem linesOf_append {text : Text} (ended : text.getLast? = some '\n') (more : Text) :
    linesOf (text ++ more) = linesOf text ++ linesOf more := by
  obtain ⟨front, rfl⟩ := List.getLast?_eq_some_iff.mp ended
  have split : Text.segments '\n' (front ++ ['\n'] ++ more) =
      Text.segments '\n' front ++ Text.segments '\n' more := by
    rw [List.append_assoc]
    exact Text.segmentsBy_append (by decide) front more
  have filled : Text.segments '\n' more ≠ [] := Text.segmentsBy_ne_nil _ more
  rw [linesOf_concat, linesOf, split, dropFinalEmpty_append _ filled, List.map_append]
  rfl

theorem linesOf_ne_nil {text : Text} (ended : text.getLast? = some '\n') : linesOf text ≠ [] := by
  obtain ⟨front, rfl⟩ := List.getLast?_eq_some_iff.mp ended
  rw [linesOf_concat]
  intro empty
  exact Text.segmentsBy_ne_nil _ front (List.map_eq_nil_iff.mp empty)

/-- Writing lines and reading them back changes none of them. -/
theorem linesOf_textOf {lines : List Text} (fit : ∀ line ∈ lines, FitsLine line) :
    linesOf (textOf lines) = lines := by
  rw [linesOf_textOf_dropReturn (fun line member => (fit line member).oneLine)]
  have kept : lines.map dropReturn = lines.map id :=
    List.map_congr_left (fun line member => dropReturn_id (fit line member).noReturn)
  rw [kept, List.map_id]

/-- A comment that says `text`. -/
def commentLine (text : Text) : Text :=
  marker :: ' ' :: text

/-- A text whose comment is not taken for a lint directive. -/
structure PlainComment (text : Text) : Prop extends FitsLine text where
  noLint : ∀ indent gap rest, text ≠ List.replicate indent ' ' ++
    ("shellcheck".toList ++ (List.replicate (gap + 1) ' ' ++ ("disable=".toList ++ rest)))

theorem afterSpacedWord?_eq_some_iff {word text rest : Text} (start : (word ++ rest).head? ≠ some ' ') :
    afterSpacedWord? word text = some rest ↔
      ∃ gap, text = List.replicate (gap + 1) ' ' ++ (word ++ rest) := by
  unfold afterSpacedWord?
  constructor
  · intro found
    split at found
    · obtain ⟨gap, rfl⟩ := (Text.trimLeft_eq_iff start).mp (Text.after?_eq_some_iff.mp found)
      exact ⟨gap, rfl⟩
    · contradiction
  · rintro ⟨gap, rfl⟩
    rw [List.replicate_succ, List.cons_append]
    exact Text.after?_eq_some_iff.mpr ((Text.trimLeft_eq_iff start).mpr ⟨gap, rfl⟩)

theorem isLintDirective_commentLine (text : Text) :
    isLintDirective (commentLine text) =
      ((afterSpacedWord? "shellcheck".toList (' ' :: text)).bind
        (afterSpacedWord? "disable=".toList)).isSome := by
  simp only [isLintDirective, commentLine, marker]
  cases afterSpacedWord? "shellcheck".toList (' ' :: text) with
  | none => rfl
  | some options => rfl

/-- A lint directive is a word and a setting, with spaces before each. -/
theorem isLintDirective_commentLine_iff {text : Text} :
    isLintDirective (commentLine text) = true ↔
      ∃ indent gap rest, text = List.replicate indent ' ' ++
        ("shellcheck".toList ++ (List.replicate (gap + 1) ' ' ++ ("disable=".toList ++ rest))) := by
  have tool : ∀ options : Text, ("shellcheck".toList ++ options).head? ≠ some ' ' := by
    intro options
    simp
  have setting : ∀ rest : Text, ("disable=".toList ++ rest).head? ≠ some ' ' := by
    intro rest
    simp
  rw [isLintDirective_commentLine, Option.isSome_iff_exists]
  simp only [Option.bind_eq_some_iff]
  constructor
  · intro ⟨rest, options, found, set⟩
    obtain ⟨indent, spaced⟩ := (afterSpacedWord?_eq_some_iff (tool options)).mp found
    obtain ⟨gap, rfl⟩ := (afterSpacedWord?_eq_some_iff (setting rest)).mp set
    exact ⟨indent, gap, rest, (List.cons.inj spaced).2⟩
  · intro ⟨indent, gap, rest, same⟩
    subst same
    exact ⟨rest, List.replicate (gap + 1) ' ' ++ ("disable=".toList ++ rest),
      (afterSpacedWord?_eq_some_iff (tool _)).mpr ⟨indent, rfl⟩,
      (afterSpacedWord?_eq_some_iff (setting rest)).mpr ⟨gap, rfl⟩⟩

/-- How a lint directive starts, with some spaces in each of its gaps. -/
def lintStart (margin indent gap : Nat) : Text :=
  List.replicate margin ' ' ++ commentLine (List.replicate indent ' ' ++ "shellcheck".toList) ++
    List.replicate (gap + 1) ' ' ++ "disable=".toList

/-- A line is a lint directive by its start alone. -/
theorem lineKind_lintDirective_iff {line : Text} :
    lineKind (Text.trimLeft ' ' line) = .lintDirective ↔
      ∃ margin indent gap rest, line = lintStart margin indent gap ++ rest := by
  have marked : ∀ text, (commentLine text).head? ≠ some ' ' := by
    intro text
    simp [commentLine, marker]
  have assembled : ∀ margin indent gap rest, lintStart margin indent gap ++ rest =
      List.replicate margin ' ' ++ commentLine (List.replicate indent ' ' ++
        ("shellcheck".toList ++ (List.replicate (gap + 1) ' ' ++ ("disable=".toList ++ rest)))) := by
    intro margin indent gap rest
    simp only [lintStart, commentLine, List.append_assoc, List.cons_append]
  have kind : ∀ stripped, lineKind stripped = .lintDirective ↔ isLintDirective stripped = true := by
    intro stripped
    cases stripped with
    | nil => decide
    | cons first rest => unfold lineKind; grind
  rw [kind]
  constructor
  · intro lint
    obtain ⟨text, stripped⟩ : ∃ text, Text.trimLeft ' ' line = commentLine text := by
      unfold isLintDirective afterSpacedWord? at lint
      split at lint
      · rename_i rest found
        cases rest with
        | nil => simp at lint
        | cons second text =>
            by_cases spaced : second = ' '
            · exact ⟨text, by rw [found, spaced]; rfl⟩
            · simp [spaced] at lint
      · contradiction
    rw [stripped] at lint
    obtain ⟨indent, gap, rest, rfl⟩ := isLintDirective_commentLine_iff.mp lint
    obtain ⟨margin, whole⟩ := (Text.trimLeft_eq_iff (marked _)).mp stripped
    exact ⟨margin, indent, gap, rest, whole.trans (assembled margin indent gap rest).symm⟩
  · rintro ⟨margin, indent, gap, rest, whole⟩
    rw [assembled] at whole
    rw [(Text.trimLeft_eq_iff (marked _)).mpr ⟨margin, whole⟩]
    exact isLintDirective_commentLine_iff.mpr ⟨indent, gap, rest, rfl⟩

theorem dropReturn_append {front : Text} (kept : front.getLast? ≠ some '\r') (back : Text) :
    ∃ shorter, dropReturn (front ++ back) = front ++ shorter := by
  rcases List.eq_nil_or_concat back with rfl | ⟨before, last, rfl⟩
  · exact ⟨[], by rw [List.append_nil, dropReturn_id kept]⟩
  · by_cases ended : last = '\r'
    · exact ⟨before, by simp [dropReturn, ended]⟩
    · refine ⟨before.concat last, dropReturn_id ?_⟩
      simpa using ended

/-- The end of a line does not decide whether it is a lint directive. -/
theorem lineKind_lintDirective_dropReturn {line : Text}
    (lint : lineKind (Text.trimLeft ' ' line) = .lintDirective) :
    lineKind (Text.trimLeft ' ' (dropReturn line)) = .lintDirective := by
  obtain ⟨margin, indent, gap, rest, rfl⟩ := lineKind_lintDirective_iff.mp lint
  have kept : (lintStart margin indent gap).getLast? ≠ some '\r' := by
    have setting : "disable=".toList.getLast? = some '=' := by decide
    rw [lintStart, List.getLast?_append, setting, Option.some_or]
    decide
  obtain ⟨shorter, dropped⟩ := dropReturn_append kept rest
  exact lineKind_lintDirective_iff.mpr ⟨margin, indent, gap, shorter, dropped⟩

instance (text : Text) : Decidable (PlainComment text) :=
  decidable_of_iff (FitsLine text ∧ isLintDirective (commentLine text) = false) <| by
    rw [← Bool.not_eq_true, isLintDirective_commentLine_iff]
    constructor
    · rintro ⟨fits, noLint⟩
      exact ⟨fits, fun indent gap rest same => noLint ⟨indent, gap, rest, same⟩⟩
    · rintro ⟨fits, noLint⟩
      exact ⟨fits, fun ⟨indent, gap, rest, same⟩ => noLint indent gap rest same⟩

theorem lineKind_commentLine {text : Text} (plain : PlainComment text) :
    lineKind (commentLine text) = .comment := by
  have noLint : isLintDirective (commentLine text) = false := by
    rw [← Bool.not_eq_true, isLintDirective_commentLine_iff]
    rintro ⟨indent, gap, rest, same⟩
    exact plain.noLint indent gap rest same
  unfold lineKind
  rw [noLint]
  simp [commentLine, marker]

theorem FitsLine.of_not_mem {line : Text} (apart : ∀ c ∈ line, c ≠ '\n' ∧ c ≠ '\r') : FitsLine line :=
  ⟨fun newline => (apart _ newline).1 rfl,
    fun ended => (apart _ (List.mem_of_getLast? ended)).2 rfl⟩

theorem FitsLine.append {left right : Text} (leftFits : FitsLine left) (rightFits : FitsLine right) :
    FitsLine (left ++ right) := by
  refine ⟨leftFits.oneLine.append rightFits.oneLine, ?_⟩
  rw [List.getLast?_append]
  cases ended : right.getLast? with
  | none => exact leftFits.noReturn
  | some last =>
      rw [Option.some_or, ← ended]
      exact rightFits.noReturn

/-- What a lint directive starts with. -/
theorem PlainComment.of_start {first : Char} {rest : Text} (fits : FitsLine (first :: rest))
    (noIndent : first ≠ ' ') (otherWord : first ≠ 's') : PlainComment (first :: rest) := by
  refine ⟨fits, fun indent gap after same => ?_⟩
  cases indent with
  | zero => exact otherWord (List.cons.inj same).1
  | succ indent => exact noIndent (List.cons.inj same).1

/-- The setting of a lint directive ends in an equals sign, which such a suffix does not bring in. -/
theorem PlainComment.append {text suffix : Text} (plain : PlainComment text) (fits : FitsLine suffix)
    (noEquals : '=' ∉ suffix) : PlainComment (text ++ suffix) := by
  refine ⟨plain.toFitsLine.append fits, fun indent gap after same => ?_⟩
  have setting : ∀ rest, text ≠ List.replicate indent ' ' ++ "shellcheck".toList ++
      List.replicate (gap + 1) ' ' ++ "disable=".toList ++ rest := by
    simpa only [List.append_assoc] using plain.noLint indent gap
  simp only [← List.append_assoc] at same
  rcases List.append_eq_append_iff.mp same with ⟨overlap, directive, cut⟩ | ⟨further, whole, _⟩
  · rcases List.eq_nil_or_concat overlap with rfl | ⟨front, last, rfl⟩
    · exact setting [] (by rw [directive, List.append_nil, List.append_nil])
    · have ending := congrArg List.getLast? directive
      have settingEnd : "disable=".toList.getLast? = some '=' := by decide
      rw [List.getLast?_append, settingEnd, Option.some_or] at ending
      have equals : last = '=' := by simpa using ending.symm
      exact noEquals (by rw [cut, equals]; simp)
  · exact setting further whole

theorem commentLine_fitsLine {text : Text} (fits : FitsLine text) : FitsLine (commentLine text) := by
  constructor
  · intro newline
    exact fits.oneLine (by simpa [commentLine, marker] using newline)
  · cases text with
    | nil => decide
    | cons first rest =>
        rw [commentLine, List.getLast?_cons_cons, List.getLast?_cons_cons]
        exact fits.noReturn

/-- A line that starts neither with a space nor with a comment's marker is code. -/
theorem lineKind_code {first : Char} {rest : Text} (notMarker : first ≠ marker) :
    lineKind (first :: rest) = .code := by
  have noLint : isLintDirective (first :: rest) = false := by
    unfold isLintDirective
    split
    · rename_i same
      exact absurd (List.cons.inj same).1 notMarker
    · rfl
  unfold lineKind
  rw [noLint]
  simp [notMarker]

theorem methodName?_eq_some_iff {line name : Text} :
    methodName? line = some name ↔
      name ≠ [] ∧ (∀ c ∈ name, isMethodNameChar c = true) ∧
        ∃ rest, line = name ++ '(' :: ')' :: rest := by
  constructor
  · intro found
    unfold methodName? at found
    dsimp only at found
    split at found
    · rename_i rest dropped
      split at found
      · contradiction
      · rename_i filled
        cases found
        refine ⟨by simpa using filled, List.all_eq_true.mp List.all_takeWhile, rest, ?_⟩
        rw [← dropped, List.takeWhile_append_dropWhile]
    · contradiction
  · rintro ⟨filled, all, rest, rfl⟩
    have opening : isMethodNameChar '(' = false := by decide
    obtain ⟨taken, dropped⟩ := Text.span_stop (')' :: rest) all opening
    simp [methodName?, taken, dropped, filled]

theorem dropFinalNewline_cases (text : Text) :
    text = Text.dropFinalNewline text ∨ text = Text.dropFinalNewline text ++ ['\n'] := by
  unfold Text.dropFinalNewline
  split
  · rename_i before reversed
    refine .inr ?_
    rw [← List.reverse_reverse text, reversed, List.reverse_cons]
  · exact .inl rfl

theorem dropFinalNewline_oneLine {value : Text} (one : OneLine value) :
    Text.dropFinalNewline value = value := by
  rcases dropFinalNewline_cases value with same | ended
  · exact same.symm
  · exact absurd (by rw [ended]; simp) one

/-- The value ends with its line; one line feed after it is not part of it. -/
theorem assignment?_eq_some_iff {line name value : Text} :
    assignment? line = some (name, value) ↔
      name ≠ [] ∧ (∀ c ∈ name, isAssignedNameChar c = true) ∧ OneLine value ∧
        (line = name ++ '=' :: value ∨ line = name ++ '=' :: (value ++ ['\n'])) := by
  constructor
  · intro found
    unfold assignment? at found
    dsimp only at found
    split at found
    · rename_i rest dropped
      split at found
      · contradiction
      · rename_i accepted
        simp only [Bool.or_eq_true, List.isEmpty_iff, List.contains_iff_mem, not_or] at accepted
        cases found
        have whole : line = line.takeWhile isAssignedNameChar ++ '=' :: rest := by
          rw [← dropped, List.takeWhile_append_dropWhile]
        refine ⟨accepted.1, List.all_eq_true.mp List.all_takeWhile, accepted.2, ?_⟩
        rcases dropFinalNewline_cases rest with same | ended
        · exact .inl (by rw [← same]; exact whole)
        · exact .inr (by rw [← ended]; exact whole)
    · contradiction
  · rintro ⟨filled, all, one, decomposed⟩
    have equals : isAssignedNameChar '=' = false := by decide
    have final : ∀ rest, Text.dropFinalNewline rest = value → line = name ++ '=' :: rest →
        assignment? line = some (name, value) := by
      intro rest cut whole
      obtain ⟨taken, dropped⟩ := Text.span_stop rest all equals
      have noNewline : '\n' ∉ value := one
      rw [whole]
      simp [assignment?, taken, dropped, cut, filled, noNewline]
    rcases decomposed with plain | ended
    · exact final value (dropFinalNewline_oneLine one) plain
    · exact final (value ++ ['\n']) (by simp [Text.dropFinalNewline]) ended

/-- After a function's name stands a parenthesis, which no assigned name goes past. -/
theorem methodName?_assignment {name rest : Text} (all : ∀ c ∈ name, isAssignedNameChar c = true) :
    methodName? (name ++ '=' :: rest) = none := by
  cases found : methodName? (name ++ '=' :: rest) with
  | none => rfl
  | some other =>
      obtain ⟨_, otherAll, after, whole⟩ := methodName?_eq_some_iff.mp found
      have equals : isAssignedNameChar '=' = false := by decide
      have parenthesis : isAssignedNameChar '(' = false := by decide
      have wider : ∀ c ∈ other, isAssignedNameChar c = true := fun c member => by
        have allowed := otherAll c member
        simp only [isMethodNameChar, Bool.or_eq_true] at allowed
        simp only [isAssignedNameChar, Bool.or_eq_true]
        grind
      have left := (Text.span_stop rest all equals).2
      have right := (Text.span_stop (')' :: after) wider parenthesis).2
      rw [whole, right] at left
      simp at left

theorem classify_eq_method_iff {line name : Text} :
    classify line = .method name ↔ methodName? line = some name := by
  unfold classify
  cases methodName? line with
  | some found => simp
  | none =>
      cases assignment? line with
      | none => simp
      | some found => simp only; split <;> simp

theorem classify_of_assignment {line name value : Text}
    (assigned : assignment? line = some (name, value)) :
    classify line =
      if name.all isConstantNameChar then .constant name value else .variable name value := by
  obtain ⟨_, all, _, decomposed⟩ := assignment?_eq_some_iff.mp assigned
  have noMethod : methodName? line = none := by
    rcases decomposed with plain | ended
    · exact plain ▸ methodName?_assignment all
    · exact ended ▸ methodName?_assignment all
  simp [classify, noMethod, assigned]

theorem assignment_of_classify (line : Text) (assigns : (classify line).isAssignment = true) :
    assignment? line = some ((classify line).name, (classify line).value) := by
  cases assigned : assignment? line with
  | some found =>
      rw [classify_of_assignment assigned]
      split <;> rfl
  | none =>
      unfold classify at assigns
      rw [assigned] at assigns
      cases found : methodName? line <;> simp [found, Declaration.isAssignment] at assigns

theorem classify_eq_constant_iff {line name value : Text} :
    classify line = .constant name value ↔
      assignment? line = some (name, value) ∧ name.all isConstantNameChar = true := by
  constructor
  · intro declared
    have assigned := assignment_of_classify line (by rw [declared]; rfl)
    rw [declared] at assigned
    refine ⟨assigned, ?_⟩
    have chosen := classify_of_assignment assigned
    rw [declared] at chosen
    cases constant : name.all isConstantNameChar with
    | true => rfl
    | false => simp [constant, Declaration.name] at chosen
  · rintro ⟨assigned, constant⟩
    rw [classify_of_assignment assigned, if_pos constant]

theorem classify_eq_variable_iff {line name value : Text} :
    classify line = .variable name value ↔
      assignment? line = some (name, value) ∧ name.all isConstantNameChar = false := by
  constructor
  · intro declared
    have assigned := assignment_of_classify line (by rw [declared]; rfl)
    rw [declared] at assigned
    refine ⟨assigned, ?_⟩
    have chosen := classify_of_assignment assigned
    rw [declared] at chosen
    cases constant : name.all isConstantNameChar with
    | true => simp [constant, Declaration.name] at chosen
    | false => rfl
  · rintro ⟨assigned, other⟩
    rw [classify_of_assignment assigned, if_neg (Bool.eq_false_iff.mp other)]

end ScriptDocs.Script
