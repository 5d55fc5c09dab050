import ScriptDocs.Text.Blank

namespace ScriptDocs.Text

/-!
Cutting text keeps its characters: whatever is cut off an end, split at separators or trimmed is made
of characters of the original. A text of one line therefore only ever gives texts of one line. Where
nothing is lost, cutting undoes joining: at a separator, text and segments split together.
-/

def OneLine (text : Text) : Prop :=
  '\n' ∉ text

instance (text : Text) : Decidable (OneLine text) :=
  inferInstanceAs (Decidable ('\n' ∉ text))

theorem OneLine.of_subset {text part : Text} (one : OneLine text) (within : part ⊆ text) :
    OneLine part :=
  fun newline => one (within newline)

theorem OneLine.append {left right : Text} (leftOne : OneLine left) (rightOne : OneLine right) :
    OneLine (left ++ right) := by
  intro newline
  rcases List.mem_append.mp newline with inLeft | inRight
  · exact leftOne inLeft
  · exact rightOne inRight

theorem OneLine.flatten {lines : List Text} (one : ∀ line ∈ lines, OneLine line) :
    OneLine lines.flatten := by
  intro newline
  obtain ⟨line, member, inside⟩ := List.mem_flatten.mp newline
  exact one line member inside

theorem oneLine_nil : OneLine [] := by
  simp [OneLine]

theorem trimLeft_subset (c : Char) (text : Text) : trimLeft c text ⊆ text :=
  (List.dropWhile_sublist _).subset

theorem trimRight_subset (c : Char) (text : Text) : trimRight c text ⊆ text := by
  intro char member
  have inside := (List.dropWhile_sublist _).subset (List.mem_reverse.mp member)
  exact List.mem_reverse.mp inside

theorem span_stop {p : Char → Bool} {front : Text} {stop : Char} (rest : Text)
    (all : ∀ c ∈ front, p c = true) (stops : p stop = false) :
    (front ++ stop :: rest).takeWhile p = front ∧
      (front ++ stop :: rest).dropWhile p = stop :: rest := by
  rw [List.takeWhile_append_of_pos all, List.dropWhile_append_of_pos all]
  simp [stops]

theorem segmentsBy_ne_nil (stop : Char → Bool) (text : Text) : segmentsBy stop text ≠ [] := by
  cases text with
  | nil => simp [segmentsBy]
  | cons c rest =>
      unfold segmentsBy
      split <;> simp

theorem segmentsBy_cons_stop {stop : Char → Bool} {c : Char} (stops : stop c = true) (rest : Text) :
    segmentsBy stop (c :: rest) = [] :: segmentsBy stop rest := by
  simp [segmentsBy, stops]

theorem segmentsBy_cons_keep {stop : Char → Bool} {c : Char} (keeps : stop c = false) (rest : Text) :
    ∃ segment segments, segmentsBy stop rest = segment :: segments ∧
      segmentsBy stop (c :: rest) = (c :: segment) :: segments := by
  cases split : segmentsBy stop rest with
  | nil => exact absurd split (segmentsBy_ne_nil stop rest)
  | cons segment segments => exact ⟨segment, segments, rfl, by simp [segmentsBy, keeps, split]⟩

/-- A segment holds characters of the text, and none that separates. -/
theorem mem_segmentsBy {stop : Char → Bool} {text segment : Text}
    (member : segment ∈ segmentsBy stop text) : ∀ c ∈ segment, c ∈ text ∧ stop c = false := by
  induction text generalizing segment with
  | nil =>
      have empty : segment = [] := by simpa [segmentsBy] using member
      simp [empty]
  | cons first rest ih =>
      cases stops : stop first with
      | true =>
          rw [segmentsBy_cons_stop stops] at member
          rcases List.mem_cons.mp member with empty | later
          · simp [empty]
          · intro c inside
            exact ⟨List.mem_cons_of_mem _ (ih later c inside).1, (ih later c inside).2⟩
      | false =>
          obtain ⟨head, tail, split, cut⟩ := segmentsBy_cons_keep stops rest
          rw [cut] at member
          rw [split] at ih
          rcases List.mem_cons.mp member with here | later
          · subst here
            intro c inside
            rcases List.mem_cons.mp inside with same | further
            · exact ⟨by simp [same], same ▸ stops⟩
            · have found := ih List.mem_cons_self c further
              exact ⟨List.mem_cons_of_mem _ found.1, found.2⟩
          · intro c inside
            have found := ih (List.mem_cons_of_mem _ later) c inside
            exact ⟨List.mem_cons_of_mem _ found.1, found.2⟩

theorem words_subset {text word : Text} (member : word ∈ words text) : word ⊆ text :=
  fun c inside => (mem_segmentsBy (List.mem_filter.mp member).1 c inside).1

/-- Splitting a text at one of its separators splits its segments. -/
theorem segmentsBy_append {stop : Char → Bool} {c : Char} (stops : stop c = true) (left right : Text) :
    segmentsBy stop (left ++ c :: right) = segmentsBy stop left ++ segmentsBy stop right := by
  induction left with
  | nil => rw [List.nil_append, segmentsBy_cons_stop stops]; rfl
  | cons first rest ih =>
      rw [List.cons_append]
      cases firstStops : stop first with
      | true => rw [segmentsBy_cons_stop firstStops, segmentsBy_cons_stop firstStops, ih]; rfl
      | false =>
          obtain ⟨segment, segments, split, cut⟩ := segmentsBy_cons_keep firstStops rest
          obtain ⟨longer, more, splitLonger, cutLonger⟩ :=
            segmentsBy_cons_keep firstStops (rest ++ c :: right)
          rw [ih, split, List.cons_append] at splitLonger
          obtain ⟨rfl, rfl⟩ := List.cons.inj splitLonger
          rw [cut, cutLonger]
          rfl

theorem segmentsBy_unbroken {stop : Char → Bool} {text : Text} (unbroken : ∀ c ∈ text, stop c = false) :
    segmentsBy stop text = [text] := by
  induction text with
  | nil => rfl
  | cons first rest ih =>
      have restWhole := ih (fun c member => unbroken c (List.mem_cons_of_mem first member))
      simp [segmentsBy, unbroken first (by simp), restWhole]

theorem words_append {c : Char} (blank : isBlank c = true) (left right : Text) :
    words (left ++ c :: right) = words left ++ words right := by
  unfold words
  rw [segmentsBy_append blank, List.filter_append]

theorem words_unbroken {word : Text} (filled : word ≠ []) (unbroken : ∀ c ∈ word, isBlank c = false) :
    words word = [word] := by
  simp [words, segmentsBy_unbroken unbroken, filled]

theorem words_joinWith {texts : List Text} (filled : ∀ word ∈ texts, word ≠ [])
    (unbroken : ∀ word ∈ texts, ∀ c ∈ word, isBlank c = false) :
    words (joinWith [' '] texts) = texts := by
  induction texts with
  | nil => rfl
  | cons word rest ih =>
      have first := words_unbroken (filled word (by simp)) (unbroken word (by simp))
      cases rest with
      | nil => exact first
      | cons next rest =>
          have later := ih (fun word member => filled word (List.mem_cons_of_mem _ member))
            (fun word member => unbroken word (List.mem_cons_of_mem _ member))
          have blank : isBlank ' ' = true := by decide
          rw [joinWith, List.append_assoc, List.singleton_append, words_append blank, first, later]
          · rfl
          · exact List.cons_ne_nil next rest

theorem joinWith_cons (separator text : Text) {rest : List Text} (filled : rest ≠ []) :
    joinWith separator (text :: rest) = text ++ separator ++ joinWith separator rest := by
  cases rest with
  | nil => contradiction
  | cons next rest => rfl

theorem joinWith_concat (separator last : Text) {texts : List Text} (filled : texts ≠ []) :
    joinWith separator (texts ++ [last]) = joinWith separator texts ++ separator ++ last := by
  induction texts with
  | nil => contradiction
  | cons text rest ih =>
      cases rest with
      | nil => rfl
      | cons next rest =>
          have later := ih (by simp)
          rw [List.cons_append, joinWith_cons _ _ (by simp), joinWith_cons _ _ (by simp), later]
          simp only [List.append_assoc]

theorem joinWith_segmentsBy {stop : Char → Bool} {c : Char} (only : ∀ other, stop other = true → other = c)
    (text : Text) : joinWith [c] (segmentsBy stop text) = text := by
  induction text with
  | nil => rfl
  | cons first rest ih =>
      cases stops : stop first with
      | true =>
          rw [segmentsBy_cons_stop stops, joinWith_cons _ _ (segmentsBy_ne_nil _ rest), ih, only first stops]
          rfl
      | false =>
          obtain ⟨segment, segments, split, cut⟩ := segmentsBy_cons_keep stops rest
          rw [cut]
          rw [split] at ih
          cases segments with
          | nil => exact congrArg (first :: ·) ih
          | cons next more => exact congrArg (first :: ·) ih

theorem joinWith_segments (c : Char) (text : Text) : joinWith [c] (segments c text) = text :=
  joinWith_segmentsBy (fun _ same => eq_of_beq same) text

theorem segments_joinWith {c : Char} {texts : List Text} (filled : texts ≠ [])
    (apart : ∀ text ∈ texts, c ∉ text) : segments c (joinWith [c] texts) = texts := by
  unfold segments
  induction texts with
  | nil => contradiction
  | cons text rest ih =>
      have whole : segmentsBy (· == c) text = [text] := by
        refine segmentsBy_unbroken fun other member => ?_
        rw [beq_eq_false_iff_ne]
        exact fun same => apart text (by simp) (same ▸ member)
      cases rest with
      | nil => exact whole
      | cons next rest =>
          have later := ih (by simp) fun text member => apart text (List.mem_cons_of_mem _ member)
          rw [joinWith_cons _ _ (by simp), List.append_assoc, List.singleton_append,
            segmentsBy_append (by simp), whole, later]
          rfl

theorem mem_joinWith {separator : Text} {texts : List Text} {c : Char}
    (member : c ∈ joinWith separator texts) : c ∈ separator ∨ ∃ text ∈ texts, c ∈ text := by
  induction texts with
  | nil => simp [joinWith] at member
  | cons text rest ih =>
      cases rest with
      | nil => exact .inr ⟨text, by simp, member⟩
      | cons next rest =>
          rw [joinWith, List.mem_append, List.mem_append] at member
          · rcases member with (here | between) | later
            · exact .inr ⟨text, by simp, here⟩
            · exact .inl between
            · rcases ih later with between | ⟨found, inside, holds⟩
              · exact .inl between
              · exact .inr ⟨found, List.mem_cons_of_mem _ inside, holds⟩
          · exact List.cons_ne_nil next rest

theorem trimRight_id {c : Char} {text : Text} (kept : text.getLast? ≠ some c) : trimRight c text = text := by
  unfold trimRight
  rw [List.getLast?_eq_head?_reverse] at kept
  cases reversed : text.reverse with
  | nil => simpa using reversed.symm
  | cons last before =>
      rw [reversed] at kept
      have differs : (last == c) = false := by simpa using kept
      rw [List.dropWhile_cons, differs, ← reversed]
      simp

theorem after?_eq_some_iff {lead text rest : Text} : after? lead text = some rest ↔ text = lead ++ rest := by
  unfold after?
  constructor
  · intro found
    split at found
    · rename_i leads
      obtain ⟨after, rfl⟩ := List.isPrefixOf_iff_prefix.mp leads
      simpa using found
    · contradiction
  · rintro rfl
    simp

/-- The leading run of a character, and a text that does not start with it. -/
theorem trimLeft_eq_iff {c : Char} {text rest : Text} (start : rest.head? ≠ some c) :
    trimLeft c text = rest ↔ ∃ count, text = List.replicate count c ++ rest := by
  unfold trimLeft
  constructor
  · rintro rfl
    refine ⟨(text.takeWhile (· == c)).length, ?_⟩
    have run : text.takeWhile (· == c) = List.replicate (text.takeWhile (· == c)).length c := by
      rw [List.eq_replicate_iff]
      exact ⟨rfl, fun char member => by simpa using List.all_eq_true.mp List.all_takeWhile char member⟩
    rw [← run, List.takeWhile_append_dropWhile]
  · rintro ⟨count, rfl⟩
    rw [List.dropWhile_append_of_pos (by simp)]
    cases rest with
    | nil => rfl
    | cons first rest =>
        have differs : (first == c) = false := by simpa using start
        simp [differs]

theorem head?_trimLeft (c : Char) (text : Text) : (trimLeft c text).head? ≠ some c := by
  intro starts
  have first := List.head?_dropWhile_not (· == c) text
  rw [trimLeft] at starts
  rw [starts] at first
  simp at first

theorem getLast?_trimRight (c : Char) (text : Text) : (trimRight c text).getLast? ≠ some c := by
  rw [trimRight, List.getLast?_reverse]
  exact head?_trimLeft c text.reverse

theorem trimRight_prefix (c : Char) (text : Text) : trimRight c text <+: text := by
  rw [trimRight, ← List.reverse_suffix, List.reverse_reverse]
  exact List.dropWhile_suffix _

theorem head?_trim (c : Char) (text : Text) : (trim c text).head? ≠ some c := by
  intro starts
  obtain ⟨rest, whole⟩ := trimRight_prefix c (trimLeft c text)
  refine head?_trimLeft c text ?_
  rw [← whole, List.head?_append]
  rw [trim] at starts
  rw [starts]
  rfl

theorem trim_id {c : Char} {text : Text} (start : text.head? ≠ some c) (last : text.getLast? ≠ some c) :
    trim c text = text := by
  have unchanged : trimLeft c text = text := (trimLeft_eq_iff start).mpr ⟨0, rfl⟩
  rw [trim, unchanged, trimRight_id last]

theorem includes_iff_infix {fragment text : Text} : includes fragment text = true ↔ fragment <:+: text := by
  induction text with
  | nil => rw [includes, List.isEmpty_iff, List.infix_nil]
  | cons c rest ih =>
      rw [includes, Bool.or_eq_true, List.isPrefixOf_iff_prefix, ih, List.infix_cons_iff]

theorem OneLine.joinWith {separator : Text} {texts : List Text} (between : OneLine separator)
    (one : ∀ text ∈ texts, OneLine text) : OneLine (Text.joinWith separator texts) := by
  intro newline
  rcases mem_joinWith newline with separating | ⟨text, member, inside⟩
  · exact between separating
  · exact one text member inside

end ScriptDocs.Text
