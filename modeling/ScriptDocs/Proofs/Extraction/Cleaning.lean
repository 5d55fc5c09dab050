import Mathlib.Data.List.TakeWhile
import ScriptDocs.Proofs.Extraction.About
import ScriptDocs.Proofs.Extraction.WellFormed

/-!
Where cleaned text ends. Cleaning cuts after the last line that is not empty and only then drops
trailing spaces, so a last line of spaces stays behind as an empty one. That is the only way in which
cleaned text ends in an empty line, and the only lines that a second cleaning would still change.
-/

namespace ScriptDocs.Text

theorem trimRight_eq_nil_iff {c : Char} {text : Text} : trimRight c text = [] ↔ ∀ x ∈ text, x = c := by
  unfold trimRight
  rw [List.reverse_eq_nil_iff, List.dropWhile_eq_nil_iff]
  simp

theorem trimRight_trimRight (c : Char) (text : Text) : trimRight c (trimRight c text) = trimRight c text := by
  apply trimRight_id
  rw [trimRight, List.getLast?_reverse]
  intro last
  have stops := List.head?_dropWhile_not (· == c) text.reverse
  simp [last] at stops

end ScriptDocs.Text

namespace ScriptDocs.Comment

/-- The last line that is not empty is made of spaces alone. -/
def EndsInSpaces (lines : List Text) : Prop :=
  ∃ front line back, lines = front ++ line :: back ∧ line ≠ [] ∧ (∀ c ∈ line, c = ' ') ∧
    ∀ later ∈ back, later = []

/-- There is a last line, and it has text. -/
def EndsInText (lines : List Text) : Prop :=
  ∃ last, lines.getLast? = some last ∧ last ≠ []

/-- No line has text. -/
def Textless (lines : List Text) : Prop :=
  ∀ line ∈ lines, line = []

theorem textless_or_split (lines : List Text) :
    Textless lines ∨ ∃ front line back, lines = front ++ line :: back ∧ line ≠ [] ∧ Textless back := by
  induction lines with
  | nil => exact .inl (by simp [Textless])
  | cons line rest ih =>
      rcases ih with textless | ⟨front, last, back, rfl, filled, textless⟩
      · by_cases empty : line = []
        · exact .inl (by simpa [Textless, empty] using textless)
        · exact .inr ⟨[], line, rest, rfl, empty, textless⟩
      · exact .inr ⟨line :: front, last, back, rfl, filled, textless⟩

theorem Textless.append_empty {lines : List Text} (textless : Textless lines) :
    Textless (lines ++ [[]]) := by
  intro line member
  rcases List.mem_append.mp member with inside | last
  · exact textless line inside
  · exact List.mem_singleton.mp last

theorem Textless.spaces {lines : List Text} (textless : Textless lines) :
    ∀ line ∈ lines, ∀ c ∈ line, c = ' ' := by
  intro line member
  simp [textless line member]

theorem clean_textless {lines : List Text} (textless : Textless lines) : clean lines = [] := by
  have dropped : lines.reverse.dropWhile List.isEmpty = [] := by
    rw [List.dropWhile_eq_nil_iff]
    intro line member
    simp [textless line (List.mem_reverse.mp member)]
  simp [clean, dropTrailingEmpty, dropped]

theorem dropTrailingEmpty_split (front : List Text) {back : List Text} {line : Text} (filled : line ≠ [])
    (textless : Textless back) : dropTrailingEmpty (front ++ line :: back) = front ++ [line] := by
  have empties : ∀ later ∈ back.reverse, List.isEmpty later = true := by
    intro later member
    simp [textless later (List.mem_reverse.mp member)]
  have some : List.isEmpty line = false := by simpa using filled
  unfold dropTrailingEmpty
  rw [List.reverse_append, List.reverse_cons, List.append_assoc, List.dropWhile_append_of_pos empties,
    List.singleton_append, List.dropWhile_cons_of_neg (by simp [some])]
  simp

theorem clean_split (front : List Text) {back : List Text} {line : Text} (filled : line ≠ [])
    (textless : Textless back) :
    clean (front ++ line :: back) = (front ++ [line]).map (Text.trimRight ' ') := by
  rw [clean, dropTrailingEmpty_split front filled textless]

theorem not_endsInSpaces_of_textless {lines : List Text} (textless : Textless lines) :
    ¬ EndsInSpaces lines := by
  rintro ⟨front, line, back, rfl, filled, _, _⟩
  exact filled (textless line (by simp))

/-- Wherever the last line that is not empty stands, it alone decides. -/
theorem endsInSpaces_split {front back : List Text} {line : Text} (filled : line ≠ [])
    (textless : Textless back) :
    EndsInSpaces (front ++ line :: back) ↔ Text.trimRight ' ' line = [] := by
  constructor
  · rintro ⟨other, last, after, same, lastFilled, spaces, lastTextless⟩
    have cleaned := clean_split other lastFilled lastTextless
    rw [← same, clean_split front filled textless] at cleaned
    have lastSame : Text.trimRight ' ' line = Text.trimRight ' ' last := by
      simpa using congrArg List.getLast? cleaned
    rw [lastSame, Text.trimRight_eq_nil_iff]
    exact spaces
  · intro trimmed
    exact ⟨front, line, back, rfl, filled, Text.trimRight_eq_nil_iff.mp trimmed, textless⟩

theorem clean_endsInText_iff (lines : List Text) :
    clean lines = [] ∨ EndsInText (clean lines) ↔ ¬ EndsInSpaces lines := by
  rcases textless_or_split lines with textless | ⟨front, line, back, rfl, filled, textless⟩
  · simp [clean_textless textless, not_endsInSpaces_of_textless textless]
  · rw [endsInSpaces_split filled textless, clean_split front filled textless]
    simp [EndsInText]

theorem clean_append_empty (lines : List Text) : clean (lines ++ [[]]) = clean lines := by
  rcases textless_or_split lines with textless | ⟨front, line, back, rfl, filled, textless⟩
  · rw [clean_textless textless, clean_textless textless.append_empty]
  · rw [List.append_assoc, List.cons_append, clean_split front filled textless.append_empty,
      clean_split front filled textless]

theorem clean_length_le (lines : List Text) : (clean lines).length ≤ lines.length := by
  rcases textless_or_split lines with textless | ⟨front, line, back, rfl, filled, textless⟩
  · simp [clean_textless textless]
  · simp [clean_split front filled textless]

/-- Cleaning again changes nothing but an empty last line that the first cleaning left. -/
theorem clean_clean_iff (lines : List Text) : clean (clean lines) = clean lines ↔ ¬ EndsInSpaces lines := by
  rcases textless_or_split lines with textless | ⟨front, line, back, rfl, filled, textless⟩
  · rw [clean_textless textless]
    exact iff_of_true rfl (not_endsInSpaces_of_textless textless)
  · rw [endsInSpaces_split filled textless, clean_split front filled textless, List.map_append,
      List.map_singleton]
    by_cases trimmed : Text.trimRight ' ' line = []
    · have shorter := clean_length_le (front.map (Text.trimRight ' '))
      simp only [trimmed, not_true_eq_false, iff_false]
      rw [clean_append_empty]
      intro same
      have sameLength := congrArg List.length same
      rw [List.length_append, List.length_singleton] at sameLength
      omega
    · have none : Textless [] := by simp [Textless]
      simp only [trimmed, not_false_eq_true, iff_true]
      rw [clean_split _ trimmed none, List.map_append, List.map_singleton, Text.trimRight_trimRight,
        List.map_map]
      congr 1
      exact List.map_congr_left (fun line _ => Text.trimRight_trimRight ' ' line)

theorem textless_clean_iff (lines : List Text) :
    Textless (clean lines) ↔ ∀ line ∈ lines, ∀ c ∈ line, c = ' ' := by
  rcases textless_or_split lines with textless | ⟨front, line, back, rfl, filled, textless⟩
  · rw [clean_textless textless]
    exact iff_of_true (by simp [Textless]) textless.spaces
  · have split : front ++ line :: back = (front ++ [line]) ++ back := by simp
    rw [clean_split front filled textless, split]
    constructor
    · intro empty other member
      rcases List.mem_append.mp member with kept | below
      · exact Text.trimRight_eq_nil_iff.mp (empty _ (List.mem_map_of_mem kept))
      · exact textless.spaces other below
    · intro spaces trimmed member
      obtain ⟨other, kept, rfl⟩ := List.mem_map.mp member
      exact Text.trimRight_eq_nil_iff.mpr (spaces other (List.mem_append_left _ kept))

/-- The lines after the first `Example:` line of a function's comment. -/
def linesAfterExample (block : List Text) : List Text :=
  (block.dropWhile fun line => directive line != .startExample).drop 1

theorem linesAfterExample_cons {line : Text} (other : directive line ≠ .startExample) (rest : List Text) :
    linesAfterExample (line :: rest) = linesAfterExample rest := by
  simp [linesAfterExample, other]

theorem applyDirectives_exampleLines {method : Method} {block shown : List Text}
    (fresh : method.exampleLines = none)
    (found : (applyDirectives method block).exampleLines = some shown) :
    shown = clean (linesAfterExample block) ∧ shown ≠ [] := by
  induction block generalizing method with
  | nil => simp [applyDirectives, fresh] at found
  | cons line rest ih =>
      unfold applyDirectives at found
      cases said : directive line with
      | argument argument =>
          simp only [said] at found
          rw [linesAfterExample_cons (by simp [said])]
          refine ih ?_ found
          exact fresh
      | code value =>
          simp only [said] at found
          rw [linesAfterExample_cons (by simp [said])]
          refine ih ?_ found
          split <;> exact fresh
      | echo value =>
          simp only [said] at found
          rw [linesAfterExample_cons (by simp [said])]
          refine ih ?_ found
          split <;> exact fresh
      | startExample =>
          have here : linesAfterExample (line :: rest) = rest := by simp [linesAfterExample, said]
          simp only [said] at found
          rw [here]
          split at found
          · contradiction
          · rename_i filled
            have same : clean rest = shown := Option.some.inj found
            exact ⟨same.symm, by simpa [same] using filled⟩
      | prose =>
          simp only [said] at found
          rw [linesAfterExample_cons (by simp [said])]
          exact ih fresh found

theorem readMethod_exampleLines {name : Text} {block shown : List Text} {method : Method}
    (read : readMethod name block = some method) (found : method.exampleLines = some shown) :
    shown = clean (linesAfterExample block) ∧ shown ≠ [] := by
  rw [(readMethod_eq_some_iff.mp read).2] at found
  exact applyDirectives_exampleLines rfl found

/-- Cleaned lines end in text unless what was cleaned ended in spaces. -/
theorem endsInText_of_clean {cleaned lines : List Text} (same : cleaned = clean lines)
    (filled : cleaned ≠ []) : EndsInText cleaned ↔ ¬ EndsInSpaces lines := by
  rw [← clean_endsInText_iff, ← same]
  simp [filled]

end ScriptDocs.Comment

namespace ScriptDocs.Extraction

open Comment (EndsInText EndsInSpaces Textless)

/-- Each text of a document ends in a line with text unless the lines it was cleaned from end in
spaces, and a description is without text only if those lines hold spaces alone. -/
structure EndsAsWritten (lines : List Text) (document : Document) : Prop where
  about : ∀ about, document.about = some about → (EndsInText about ↔ ¬ EndsInSpaces (firstBlock lines))
  assigned : ∀ entity ∈ document.constants ++ document.vars,
    (EndsInText entity.desc ↔
      ¬ EndsInSpaces (Comment.stripMark (attachedBlock lines entity.line)).1) ∧
    (Textless entity.desc ↔
      ∀ text ∈ (Comment.stripMark (attachedBlock lines entity.line)).1, ∀ c ∈ text, c = ' ')
  methods : ∀ method ∈ document.methods,
    (EndsInText method.desc ↔
      ¬ EndsInSpaces (Comment.description (attachedBlock lines method.line))) ∧
    (Textless method.desc ↔
      ∀ text ∈ Comment.description (attachedBlock lines method.line), ∀ c ∈ text, c = ' ')
  examples : ∀ method ∈ document.methods, ∀ shown, method.exampleLines = some shown →
    (EndsInText shown ↔ ¬ EndsInSpaces (Comment.linesAfterExample (attachedBlock lines method.line)))

theorem AssignedAt.endsAsWritten {lines : List Text} {n : Nat} {entity : Variable}
    (assigned : AssignedAt lines n entity) :
    (EndsInText entity.desc ↔ ¬ EndsInSpaces (Comment.stripMark (attachedBlock lines n)).1) ∧
    (Textless entity.desc ↔
      ∀ text ∈ (Comment.stripMark (attachedBlock lines n)).1, ∀ c ∈ text, c = ' ') := by
  have cleaned : entity.desc = Comment.clean (Comment.stripMark (attachedBlock lines n)).1 :=
    assigned.desc
  refine ⟨Comment.endsInText_of_clean cleaned assigned.described, ?_⟩
  rw [cleaned, Comment.textless_clean_iff]

theorem run_endsAsWritten (title : Text) (lines : List Text) :
    EndsAsWritten lines (run title lines).document := by
  obtain ⟨constants, vars, methods⟩ := run_entities title lines
  constructor
  case about =>
    intro about found
    rw [run_about_eq, aboutOf] at found
    split at found
    · rename_i kept
      cases found
      exact Comment.endsInText_of_clean rfl kept.2
    · contradiction
  case assigned =>
    intro entity member
    rcases List.mem_append.mp member with inConstants | inVars
    · exact (entityAt_constant (constants entity inConstants)).2.endsAsWritten
    · exact (entityAt_var (vars entity inVars)).2.endsAsWritten
  case methods =>
    intro method member
    obtain ⟨read, _, readFrom, described, same⟩ := entityAt_method (methods method member)
    have cleaned : method.desc = Comment.clean (Comment.description (attachedBlock lines method.line)) := by
      rw [← Comment.readMethod_desc readFrom, same]
    have filled : method.desc ≠ [] := by rw [same]; exact described
    refine ⟨Comment.endsInText_of_clean cleaned filled, ?_⟩
    rw [cleaned, Comment.textless_clean_iff]
  case examples =>
    intro method member shown found
    obtain ⟨read, _, readFrom, _, same⟩ := entityAt_method (methods method member)
    have readShown : read.exampleLines = some shown := by rw [same] at found; exact found
    obtain ⟨cleaned, filled⟩ := Comment.readMethod_exampleLines readFrom readShown
    exact Comment.endsInText_of_clean cleaned filled

/-- Where cleaned text ends, for every list of lines and in every document. -/
theorem cleaned_endsAsWritten (lines : List Text) (title text : Text) :
    (Comment.clean lines = [] ∨ EndsInText (Comment.clean lines) ↔ ¬ EndsInSpaces lines) ∧
    (Comment.clean (Comment.clean lines) = Comment.clean lines ↔ ¬ EndsInSpaces lines) ∧
    EndsAsWritten (Script.linesOf text) (extract title text).1 :=
  ⟨Comment.clean_endsInText_iff lines, Comment.clean_clean_iff lines,
    run_endsAsWritten title (Script.linesOf text)⟩

/-- A function under a comment of three spaces. -/
def spacesText : Text :=
  "#!/bin/sh\n#    \nrun() (\n".toList

/-- Three spaces are cleaned to one empty line, which a second cleaning would take away, and a function
with such a comment is documented although nothing is said about it. -/
theorem clean_spaces_leaves_empty :
    (¬ (Comment.clean ["   ".toList] = [] ∨ EndsInText (Comment.clean ["   ".toList]))) ∧
    Comment.clean (Comment.clean ["   ".toList]) ≠ Comment.clean ["   ".toList] ∧
    ∃ method ∈ (extract [] spacesText).1.methods, Textless method.desc := by
  have cleaned : Comment.clean ["   ".toList] = [[]] := by decide
  have found : (extract [] spacesText).1.methods = [{ name := "run".toList, desc := [[]], line := 3 }] := by
    decide +kernel
  refine ⟨?_, by decide, _, by rw [found]; exact List.mem_singleton_self _, by simp [Textless]⟩
  rw [cleaned]
  simp [EndsInText]

end ScriptDocs.Extraction
