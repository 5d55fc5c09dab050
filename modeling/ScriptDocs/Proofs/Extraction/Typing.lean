import ScriptDocs.Proofs.Comment.Annotation
import ScriptDocs.Proofs.Extraction.Quoting

/-!
Where the type of a variable comes from. The last mark on the first marked line of its comment names it;
without a mark it is guessed from the value. The guess is made on the line of the assignment, before the
lines that continue the value are known, and they never change it.
-/

namespace ScriptDocs.Comment

open Text (OneLine)

/-- The line has a mark of the type right after `text`. -/
def MarkedAfter (line text : Text) (type : ValueType) : Prop :=
  type ≠ .unknown ∧ text ++ typeMark type <+: line

structure LastMark (line text : Text) (type : ValueType) : Prop where
  marked : MarkedAfter line text type
  last : ∀ other kind, MarkedAfter line other kind → other.length ≤ text.length

/-- The lines split at the first one with a mark, which is cut before its last mark. -/
structure FirstMark (lines front : List Text) (line text : Text) (type : ValueType) (back : List Text) :
    Prop where
  split : lines = front ++ line :: back
  before : ∀ earlier ∈ front, Unmarked earlier
  last : LastMark line text type

/-! ### Marks on a line -/

theorem unmarked_iff {line : Text} : Unmarked line ↔ ∀ text type, ¬ MarkedAfter line text type := by
  constructor
  · intro unmarked text type ⟨known, rest, whole⟩
    have listed : type ∈ [ValueType.boolean, .string, .number] := by
      cases type <;> simp at known ⊢
    have absent := unmarked type listed
    rw [Text.includes_iff_infix.mpr ⟨text, rest, whole⟩] at absent
    contradiction
  · intro absent type listed
    rw [Bool.eq_false_iff]
    intro present
    obtain ⟨text, rest, whole⟩ := Text.includes_iff_infix.mp present
    have known : type ≠ .unknown := by
      intro unknown
      rw [unknown] at listed
      exact absurd listed (by decide)
    exact absent text type ⟨known, rest, whole⟩

/-- Every mark starts with a space, so none starts in a text that has no space. -/
theorem markedAfter_of_unspaced {text rest before : Text} {type : ValueType} (unspaced : ' ' ∉ text)
    (marked : MarkedAfter (text ++ rest) before type) : ∃ passed, MarkedAfter rest passed type := by
  obtain ⟨known, tail, whole⟩ := marked
  obtain ⟨more, mark, _⟩ := typeMark_space known
  rw [List.append_assoc] at whole
  rcases List.append_eq_append_iff.mp whole with ⟨shared, ends, after⟩ | ⟨passed, _, after⟩
  · cases shared with
    | nil => exact ⟨[], known, tail, after⟩
    | cons c shared =>
        rw [mark, List.cons_append, List.cons_append] at after
        have space : ' ' = c := (List.cons.inj after).1
        rw [ends, ← space] at unspaced
        exact absurd (by simp) unspaced
  · exact ⟨passed, known, tail, by rw [after, List.append_assoc]⟩

theorem lastMark_of_unmarked (text : Text) {rest : Text} {type : ValueType} (known : type ≠ .unknown)
    (unmarked : Unmarked rest) : LastMark (text ++ typeMark type ++ rest) text type := by
  refine ⟨⟨known, List.prefix_append _ rest⟩, fun other kind ⟨otherKnown, tail, whole⟩ => ?_⟩
  obtain ⟨more, mark, unspaced⟩ := typeMark_space known
  rw [List.append_assoc, List.append_assoc] at whole
  rcases List.append_eq_append_iff.mp whole with ⟨between, longer, _⟩ | ⟨between, shorter, within⟩
  · rw [longer, List.length_append]
    exact Nat.le_add_right _ _
  · cases between with
    | nil => exact Nat.le_of_eq (by rw [shorter, List.append_nil])
    | cons first between =>
        rw [mark, List.cons_append, List.cons_append, ← List.append_assoc] at within
        have inside : MarkedAfter (more ++ rest) between kind :=
          ⟨otherKnown, tail, (List.cons.inj within).2.symm⟩
        obtain ⟨passed, marked⟩ := markedAfter_of_unspaced unspaced inside
        exact absurd marked (unmarked_iff.mp unmarked passed kind)

theorem LastMark.unique {line text other : Text} {type kind : ValueType} (mark : LastMark line text type)
    (otherMark : LastMark line other kind) : text = other ∧ type = kind := by
  obtain ⟨known, whole⟩ := mark.marked
  obtain ⟨otherKnown, otherWhole⟩ := otherMark.marked
  have sameLength : text.length = other.length :=
    Nat.le_antisymm (otherMark.last text type mark.marked) (mark.last other kind otherMark.marked)
  have sameText : text = other := by
    have starts := (List.prefix_append text _).trans whole
    have otherStarts := (List.prefix_append other _).trans otherWhole
    exact (List.prefix_of_prefix_length_le starts otherStarts (Nat.le_of_eq sameLength)).eq_of_length sameLength
  subst sameText
  refine ⟨rfl, ?_⟩
  -- No mark is the start of another one.
  have apart : typeMark type <+: typeMark kind ∨ typeMark kind <+: typeMark type := by
    rcases List.prefix_or_prefix_of_prefix whole otherWhole with starts | starts
    · exact .inl ((List.prefix_append_right_inj text).mp starts)
    · exact .inr ((List.prefix_append_right_inj text).mp starts)
  revert known otherKnown apart
  cases type <;> cases kind <;> decide

theorem lastAnnotation?_eq_some_iff {line text : Text} {type : ValueType} :
    lastAnnotation? line = some (text, type) ↔ LastMark line text type := by
  rcases lastAnnotation?_cases line with ⟨unmarked, none⟩ | ⟨before, kind, rest, known, rfl, after, found⟩
  · rw [none]
    exact ⟨fun absent => by contradiction, fun mark => absurd mark.marked (unmarked_iff.mp unmarked text type)⟩
  · have last := lastMark_of_unmarked before known after
    rw [found]
    constructor
    · intro same
      cases same
      exact last
    · intro mark
      obtain ⟨rfl, rfl⟩ := mark.unique last
      rfl

/-! ### Comments -/

theorem stripMark_append {front : List Text} (one : ∀ line ∈ front, OneLine line)
    (unmarked : ∀ line ∈ front, Unmarked line) (lines : List Text) :
    stripMark (front ++ lines) =
      (front ++ (stripMark lines).1, (stripMark lines).2) := by
  induction front with
  | nil => rfl
  | cons line front ih =>
      rw [List.cons_append, stripMark,
        annotation?_unmarked (one line (by simp)) (unmarked line (by simp)),
        ih (fun later member => one later (List.mem_cons_of_mem line member))
          (fun later member => unmarked later (List.mem_cons_of_mem line member))]
      rfl

theorem extractType_unmarked {lines : List Text} (one : ∀ line ∈ lines, OneLine line)
    (unmarked : ∀ line ∈ lines, Unmarked line) : extractType lines = (clean lines, .unknown) := by
  have kept := stripMark_append one unmarked []
  rw [List.append_nil] at kept
  rw [extractType, kept]
  simp [stripMark]

theorem FirstMark.extractType_eq {lines front back : List Text} {line text : Text} {type : ValueType}
    (first : FirstMark lines front line text type back) (one : ∀ line ∈ lines, OneLine line) :
    extractType lines = (clean (front ++ text :: back), type) := by
  obtain ⟨rfl, before, last⟩ := first
  have lineOne : OneLine line := one line (by simp)
  have found : annotation? line = some (text, type) := by
    rw [annotation?, takeWhile_oneLine lineOne, lastAnnotation?_eq_some_iff.mpr last]
  have frontOne : ∀ earlier ∈ front, OneLine earlier := fun earlier member => one earlier (by simp [member])
  rw [extractType, stripMark_append frontOne before, stripMark, found]

theorem unmarked_or_firstMark {lines : List Text} (one : ∀ line ∈ lines, OneLine line) :
    (∀ line ∈ lines, Unmarked line) ∨
      ∃ front line text type back, FirstMark lines front line text type back := by
  rcases stripMark_cases one with
    ⟨unmarked, _⟩ | ⟨front, text, type, rest, back, known, split, before, after, _⟩
  · exact .inl unmarked
  · exact .inr ⟨front, _, text, type, back, split, before, lastMark_of_unmarked text known after⟩

/-! ### Guessed types -/

theorem guessType_quoted (rest : Text) : guessType ('"' :: rest) = .string := by
  have noNumber : isNumeric ('"' :: rest) = false := by
    have inside : '"' ∈ Text.dropFinalNewline ('"' :: rest) := by
      rcases Script.dropFinalNewline_cases ('"' :: rest) with same | ended
      · rw [← same]
        exact List.mem_cons_self
      · have member : '"' ∈ Text.dropFinalNewline ('"' :: rest) ++ ['\n'] := by
          rw [← ended]
          exact List.mem_cons_self
        simpa using member
    rw [isNumeric, Bool.and_eq_false_iff]
    exact .inr (List.all_eq_false.mpr ⟨'"', inside, by decide⟩)
  have noBoolean : ('"' :: rest == "true".toList) = false := by
    rw [beq_eq_false_iff_ne]
    intro same
    exact absurd (List.cons.inj same).1 (by decide)
  rw [guessType, noNumber, noBoolean]
  rfl

theorem guessType_append {value : Text} (opens : opensString value = true) (more : Text) :
    guessType (value ++ more) = guessType value := by
  cases value with
  | nil => contradiction
  | cons first rest =>
      have quote : first = '"' := by
        rw [opensString, Bool.and_eq_true] at opens
        simpa using opens.1
      rw [quote, List.cons_append, guessType_quoted, guessType_quoted]

end ScriptDocs.Comment

namespace ScriptDocs.Extraction

open Text (OneLine)
open Comment (Unmarked FirstMark clean isPrivate guessType readVariable delayComment)

theorem AssignedAt.type_unmarked {lines : List Text} {n : Nat} {entity : Variable}
    (assigned : AssignedAt lines n entity) (one : ∀ line ∈ lines, OneLine line)
    (unmarked : ∀ line ∈ attachedBlock lines n, Unmarked line) : entity.type = guessType entity.value := by
  have unnamed := Comment.extractType_unmarked (attachedBlock_oneLine one n) unmarked
  rw [assigned.type, assigned.value, unnamed, if_pos rfl]
  by_cases opens : Comment.opensString (declarationAt lines n).value = true
  · rw [if_pos opens, Comment.guessType_append opens]
  · rw [if_neg opens, List.append_nil]

/-- The type of a variable is named by the last mark on the first marked line of its comment, or else it is
what its value looks like; for a variable of a script, what its value looks like once it is complete. -/
theorem variable_typed :
    (∀ (name value : Text) (lines : List Text), lines ≠ [] → isPrivate lines = false →
      (∀ line ∈ lines, OneLine line) →
      ((∀ line ∈ lines, Unmarked line) ∨
        ∃ front line text type back, FirstMark lines front line text type back) ∧
      (∀ front line text type back, FirstMark lines front line text type back →
        readVariable name value lines =
          some { name, desc := clean (front ++ text :: back), type, value }) ∧
      ((∀ line ∈ lines, Unmarked line) →
        readVariable name value lines =
          some { name, desc := clean lines, type := guessType value, value })) ∧
    (∀ title text, ∀ entity ∈ (extract title text).1.constants ++ (extract title text).1.vars,
      (∀ line ∈ attachedBlock (Script.linesOf text) entity.line, Unmarked line) →
      entity.type = guessType entity.value) := by
  constructor
  · intro name value lines filled shown one
    refine ⟨Comment.unmarked_or_firstMark one, ?_, ?_⟩
    · intro front line text type back first
      rw [Comment.readVariable_eq_some_iff, first.extractType_eq one, if_neg first.last.marked.1]
      exact ⟨⟨filled, shown⟩, rfl⟩
    · intro unmarked
      rw [Comment.readVariable_eq_some_iff, Comment.extractType_unmarked one unmarked, if_pos rfl]
      exact ⟨⟨filled, shown⟩, rfl⟩
  · intro title text entity member unmarked
    have assigned := assigned_value title text member rfl
    exact assigned.type_unmarked (fun _ => Script.linesOf_oneLine) unmarked

/-- A script with a value of two lines under a comment that names no type. -/
def usageLines : List Text :=
  ["#!/bin/sh".toList, "# Usage".toList, "USAGE=\"run".toList, "42\"".toList, "# Tries".toList,
    "tries=3".toList]

theorem linesOf_usageLines : Script.linesOf (Script.textOf usageLines) = usageLines :=
  Script.linesOf_textOf (by decide)

theorem variable_typed_usage :
    FirstMark delayComment ["Delay".toList] "as (String) or number (Number)  ".toList
      "as (String) or number".toList .number ["never (Boolean)".toList] ∧
    readVariable "delay".toList "true".toList delayComment = some
      { name := "delay".toList
        desc := ["Delay".toList, "as (String) or number".toList, "never (Boolean)".toList]
        type := .number
        value := "true".toList } ∧
    readVariable "delay".toList "true".toList ["Delay".toList] = some
      { name := "delay".toList, desc := ["Delay".toList], type := .boolean, value := "true".toList } ∧
    ∃ entity ∈ (extract [] (Script.textOf usageLines)).1.constants,
      (∀ line ∈ attachedBlock (Script.linesOf (Script.textOf usageLines)) entity.line, Unmarked line) ∧
      entity.value = "\"run42\"".toList ∧ entity.type = guessType "\"run42\"".toList := by
  obtain ⟨comments, scripts⟩ := variable_typed
  have first : FirstMark delayComment ["Delay".toList] "as (String) or number (Number)  ".toList
      "as (String) or number".toList .number ["never (Boolean)".toList] :=
    ⟨rfl, by decide +kernel, Comment.lastAnnotation?_eq_some_iff.mp (by decide +kernel)⟩
  obtain ⟨_, named, _⟩ :=
    comments "delay".toList "true".toList delayComment (by decide) (by decide +kernel) (by decide)
  obtain ⟨_, _, guessed⟩ :=
    comments "delay".toList "true".toList ["Delay".toList] (by decide) (by decide +kernel) (by decide)
  have constants : (extract [] (Script.textOf usageLines)).1.constants =
      [{ name := "USAGE".toList, desc := ["Usage".toList], type := .string, value := "\"run42\"".toList,
         line := 3 }] := by
    rw [extract, linesOf_usageLines]
    decide +kernel
  have unmarked : ∀ line ∈ attachedBlock (Script.linesOf (Script.textOf usageLines)) 3, Unmarked line := by
    rw [linesOf_usageLines, attachedBlock_eq_run [] (by decide)]
    decide +kernel
  have typed := scripts [] (Script.textOf usageLines)
  rw [constants] at typed ⊢
  exact ⟨first, named _ _ _ _ _ first, guessed (by decide +kernel), _, List.mem_singleton.mpr rfl, unmarked, rfl,
    typed _ (List.mem_append_left _ (List.mem_singleton.mpr rfl)) unmarked⟩

end ScriptDocs.Extraction
