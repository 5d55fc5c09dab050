import ScriptDocs.Proofs.Comment.Rendering

namespace ScriptDocs.Comment

open Text (OneLine)

/-!
What is lost when a type is taken out of a comment. The first line that names a type is cut before its
last type mark; all other lines stay. The cut takes away what stands behind the mark as well, so text
is lost unless that is spaces.
-/

theorem includes_append {fragment : Text} (front : Text) {back : Text}
    (absent : Text.includes fragment (front ++ back) = false) : Text.includes fragment back = false := by
  induction front with
  | nil => exact absent
  | cons c rest ih =>
      rw [List.cons_append, Text.includes, Bool.or_eq_false_iff] at absent
      exact ih absent.2

theorem typeMark_space {type : ValueType} (known : type ≠ .unknown) :
    ∃ more, typeMark type = ' ' :: more ∧ ' ' ∉ more := by
  cases type with
  | unknown => exact absurd rfl known
  | string => exact ⟨"(String)".toList, by decide, by decide⟩
  | number => exact ⟨"(Number)".toList, by decide, by decide⟩
  | boolean => exact ⟨"(Boolean)".toList, by decide, by decide⟩

theorem typeMark_cons {type : ValueType} (known : type ≠ .unknown) :
    ∃ first more, typeMark type = first :: more := by
  obtain ⟨more, mark, _⟩ := typeMark_space known
  exact ⟨' ', more, mark⟩

theorem annotationAt?_eq_some {text : Text} {type : ValueType} (found : annotationAt? text = some type) :
    type ≠ .unknown ∧ ∃ rest, text = typeMark type ++ rest := by
  obtain ⟨named, first, rfl⟩ := Option.map_eq_some_iff.mp found
  obtain ⟨known, mark⟩ := typeMark_of_word named (List.mem_of_find?_eq_some first)
  have starts := List.find?_some first
  obtain ⟨rest, whole⟩ := List.isPrefixOf_iff_prefix.mp starts
  refine ⟨?_, rest, by rw [mark]; exact whole.symm⟩
  intro unknown
  rw [unknown] at known
  exact absurd known (by decide)

theorem unmarked_of_annotationAt? {text : Text} (none : annotationAt? text = none) :
    ∀ type ∈ [ValueType.boolean, .string, .number], (typeMark type).isPrefixOf text = false := by
  have named : ∀ type ∈ [ValueType.boolean, .string, .number], ∃ named ∈ annotationWords,
      typeMark type = " (".toList ++ named.1 ++ ")".toList := by decide
  intro type known
  obtain ⟨word, member, mark⟩ := named type known
  have absent := List.find?_eq_none.mp (Option.map_eq_none_iff.mp none) word member
  rw [mark]
  exact Bool.eq_false_iff.mpr absent

/-- A line is without a mark, or it is cut at its last one. -/
theorem lastAnnotation?_cases (line : Text) :
    Unmarked line ∧ lastAnnotation? line = none ∨
      ∃ text type rest, type ≠ .unknown ∧ line = text ++ typeMark type ++ rest ∧ Unmarked rest ∧
        lastAnnotation? line = some (text, type) := by
  induction line with
  | nil => exact .inl ⟨by decide, rfl⟩
  | cons c line ih =>
      rcases ih with ⟨unmarked, none⟩ | ⟨text, type, rest, known, rfl, unmarked, found⟩
      · cases here : annotationAt? (c :: line) with
        | none =>
            refine .inl ⟨fun type known => ?_, by rw [lastAnnotation?, none, here]; rfl⟩
            rw [Text.includes, unmarked type known, Bool.or_false]
            exact unmarked_of_annotationAt? here type known
        | some type =>
            obtain ⟨known, rest, whole⟩ := annotationAt?_eq_some here
            obtain ⟨first, more, mark⟩ := typeMark_cons known
            rw [mark, List.cons_append] at whole
            have within : line = more ++ rest := (List.cons.inj whole).2
            refine .inr ⟨[], type, rest, known, by rw [mark]; exact whole, fun other otherKnown => ?_,
              by rw [lastAnnotation?, none, here]; rfl⟩
            exact includes_append more (by rw [← within]; exact unmarked other otherKnown)
      · exact .inr ⟨c :: text, type, rest, known, rfl, unmarked, by rw [lastAnnotation?, found]⟩

/-- Either no line names a type, or the first one that does is cut before its last mark. -/
theorem stripMark_cases {lines : List Text} (one : ∀ line ∈ lines, OneLine line) :
    (∀ line ∈ lines, Unmarked line) ∧ stripMark lines = (lines, .unknown) ∨
      ∃ front text type rest back, type ≠ .unknown ∧
        lines = front ++ (text ++ typeMark type ++ rest) :: back ∧
        (∀ line ∈ front, Unmarked line) ∧ Unmarked rest ∧
        stripMark lines = (front ++ text :: back, type) := by
  induction lines with
  | nil => exact .inl ⟨by simp, rfl⟩
  | cons line lines ih =>
      have whole : annotation? line = lastAnnotation? line := by
        rw [annotation?, takeWhile_oneLine (one line (by simp))]
      rcases lastAnnotation?_cases line with ⟨unmarked, none⟩ | ⟨text, type, rest, known, cut, after, found⟩
      · rw [stripMark, whole, none]
        rcases ih (fun later member => one later (List.mem_cons_of_mem line member)) with
          ⟨laterUnmarked, kept⟩ | ⟨front, text, type, rest, back, known, split, before, after, cut⟩
        · exact .inl ⟨List.forall_mem_cons.mpr ⟨unmarked, laterUnmarked⟩, by rw [kept]⟩
        · exact .inr ⟨line :: front, text, type, rest, back, known, by rw [split]; rfl,
            List.forall_mem_cons.mpr ⟨unmarked, before⟩, after, by rw [cut]; rfl⟩
      · exact .inr ⟨[], text, type, rest, lines, known, by rw [cut]; rfl, by simp, after,
          by rw [stripMark, whole, found]; rfl⟩

/-- Nothing but a type mark at the end of a line, with the spaces behind it, is taken out of the
lines. -/
def CutsTrailingMark (lines : List Text) : Prop :=
  (stripMark lines).2 = .unknown ∧ (stripMark lines).1 = lines ∨
    (stripMark lines).2 ≠ .unknown ∧ ∃ front text spaces back,
      lines = front ++
        (text ++ typeMark (stripMark lines).2 ++ List.replicate spaces ' ') :: back ∧
      (stripMark lines).1 = front ++ text :: back

theorem getElem?_other_line {front back : List Text} {line other : Text} {n : Nat}
    (elsewhere : n ≠ front.length) : (front ++ line :: back)[n]? = (front ++ other :: back)[n]? := by
  rcases Nat.lt_or_gt_of_ne elsewhere with before | after
  · rw [List.getElem?_append_left before, List.getElem?_append_left before]
  · obtain ⟨k, rfl⟩ := Nat.exists_eq_add_of_lt after
    rw [List.getElem?_append_right (by omega), List.getElem?_append_right (by omega)]
    have past : front.length + k + 1 - front.length = k + 1 := by omega
    rw [past, List.getElem?_cons_succ, List.getElem?_cons_succ]

/-- The line that is cut is the only one that changes, so it is the one with the trailing mark. -/
theorem cutsTrailingMark_of_cut {front back : List Text} {text rest : Text} {type : ValueType}
    (known : type ≠ .unknown)
    (cut : stripMark (front ++ (text ++ typeMark type ++ rest) :: back) =
      (front ++ text :: back, type)) :
    CutsTrailingMark (front ++ (text ++ typeMark type ++ rest) :: back) ↔ ∀ c ∈ rest, c = ' ' := by
  unfold CutsTrailingMark
  rw [cut]
  constructor
  · rintro (⟨unknown, _⟩ | ⟨_, otherFront, otherText, spaces, otherBack, split, stripped⟩)
    · exact absurd unknown known
    · by_cases here : front.length = otherFront.length
      · have sameLine := (List.cons.inj (List.append_inj split here).2).1
        have sameText := (List.cons.inj (List.append_inj stripped here).2).1
        rw [sameText] at sameLine
        rw [List.append_cancel_left sameLine]
        exact fun c member => List.eq_of_mem_replicate member
      · have line := congrArg (fun lines => lines[front.length]?) split
        have kept := congrArg (fun lines => lines[front.length]?) stripped
        dsimp only at line kept
        rw [getElem?_other_line here, ← kept] at line
        have shorter : text ++ typeMark type ++ rest = text := by simpa using line
        obtain ⟨first, more, mark⟩ := typeMark_cons known
        rw [List.append_assoc, List.append_right_eq_self, mark] at shorter
        cases shorter
  · intro spaces
    refine .inr ⟨known, front, text, rest.length, back, ?_, rfl⟩
    rw [← List.eq_replicate_iff.mpr ⟨rfl, spaces⟩]

/-- What becomes of commented lines: all stay if none names a type; else the first that does loses its
last mark and what stands behind it, which no text is lost by only if that is spaces. -/
theorem stripMark_cuts {lines : List Text} (one : ∀ line ∈ lines, OneLine line) :
    (∀ line ∈ lines, Unmarked line) ∧ stripMark lines = (lines, .unknown) ∧
        CutsTrailingMark lines ∨
      ∃ front text type rest back, type ≠ .unknown ∧
        lines = front ++ (text ++ typeMark type ++ rest) :: back ∧
        (∀ line ∈ front, Unmarked line) ∧ Unmarked rest ∧
        stripMark lines = (front ++ text :: back, type) ∧
        extractType lines = (clean (front ++ text :: back), type) ∧
        (CutsTrailingMark lines ↔ ∀ c ∈ rest, c = ' ') := by
  rcases stripMark_cases one with
    ⟨unmarked, kept⟩ | ⟨front, text, type, rest, back, known, rfl, before, after, cut⟩
  · refine .inl ⟨unmarked, kept, .inl ?_⟩
    rw [kept]
    exact ⟨rfl, rfl⟩
  · exact .inr ⟨front, text, type, rest, back, known, rfl, before, after, cut,
      by rw [extractType, cut], cutsTrailingMark_of_cut known cut⟩

/-- A comment whose second line has a mark in the middle and one at its end. -/
def delayComment : List Text :=
  ["Delay".toList, "as (String) or number (Number)  ".toList, "never (Boolean)".toList]

theorem stripMark_cuts_delay :
    (∀ line ∈ delayComment, OneLine line) ∧
    (∃ front text type rest back, type ≠ .unknown ∧
      delayComment = front ++ (text ++ typeMark type ++ rest) :: back ∧
      (∀ line ∈ front, Unmarked line) ∧ Unmarked rest ∧
      stripMark delayComment = (front ++ text :: back, type) ∧
      extractType delayComment = (clean (front ++ text :: back), type) ∧
      (CutsTrailingMark delayComment ↔ ∀ c ∈ rest, c = ' ')) ∧
    stripMark delayComment =
      (["Delay".toList, "as (String) or number".toList, "never (Boolean)".toList], .number) := by
  have one : ∀ line ∈ delayComment, OneLine line := by decide
  have marked : ¬ ∀ line ∈ delayComment, Unmarked line := by decide +kernel
  refine ⟨one, ?_, by decide +kernel⟩
  exact (stripMark_cuts one).resolve_left (fun kept => marked kept.1)

/-- A mark in the middle of a line is taken for its end: the rest of the line is lost. -/
theorem stripMark_loses_text :
    extractType ["Timeout (Number) in seconds".toList] = (["Timeout".toList], .number) ∧
    ¬ CutsTrailingMark ["Timeout (Number) in seconds".toList] := by
  refine ⟨by decide +kernel, fun trailing => ?_⟩
  have cut : stripMark ([] ++ ("Timeout".toList ++ typeMark .number ++ " in seconds".toList) :: []) =
      ([] ++ "Timeout".toList :: [], .number) := by decide +kernel
  have spaces := (cutsTrailingMark_of_cut (by decide) cut).mp trailing
  exact absurd (spaces 'i' (by decide)) (by decide)

end ScriptDocs.Comment
