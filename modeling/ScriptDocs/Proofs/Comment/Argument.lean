import ScriptDocs.Proofs.Comment.Rendering

namespace ScriptDocs.Comment

/-!
Argument lines: which lines they are, and what they say. Only the index and the words of the first line
count, and of these each marker counts for itself; so markers can stand anywhere among the words, and a
line can be written with its markers at the end and still say the same.
-/

def IsIndex (index : Text) : Prop :=
  index = wildcardIndex ∨ index ≠ [] ∧ ∀ c ∈ index, Text.isDigit c = true

def describingWords (rest : Text) : List Text :=
  Text.words (rest.takeWhile (· != '\n'))

def typeWords : List Text :=
  ["(Boolean)".toList, "(Number)".toList, "(String)".toList]

def markerWords : List Text :=
  optionalWord :: typeWords

/-- What an index and words say: each part is read off the words by itself, the type off the last word
that names one. -/
def argumentFrom (index : Text) (words : List Text) : Argument where
  index := index
  desc := Text.joinWith [' '] (words.filter (fun word => !markerWords.contains word))
  type := if index = wildcardIndex then .unknown else ((words.filterMap typeOfWord?).getLast?).getD .unknown
  isOptional := words.contains optionalWord
  isWildcard := index == wildcardIndex

/-- The same words with the markers moved among them. Other words keep their order, and so do the words
that name types. -/
structure Rearranged (words others : List Text) : Prop where
  perm : others.Perm words
  plain : others.filter (fun word => !markerWords.contains word) =
    words.filter (fun word => !markerWords.contains word)
  types : others.filter typeWords.contains = words.filter typeWords.contains

theorem typeOfWord?_isSome (word : Text) : (typeOfWord? word).isSome = typeWords.contains word := by
  rw [typeOfWord?, typeWords, List.contains_cons, List.contains_cons, List.contains_cons]
  cases word == "(Boolean)".toList with
  | true => rfl
  | false =>
      cases word == "(Number)".toList with
      | true => rfl
      | false => cases word == "(String)".toList <;> rfl

theorem isPlainWord_eq (word : Text) : isPlainWord word = !markerWords.contains word := by
  rw [isPlainWord, ← Option.not_isSome, typeOfWord?_isSome, markerWords, List.contains_cons, Bool.not_or,
    Bool.and_comm]
  rfl

theorem argumentOf_eq_argumentFrom (index : Text) (words : List Text) :
    argumentOf index words = argumentFrom index words := by
  rw [argumentOf_eq, argumentFrom]
  simp only [funext isPlainWord_eq]

theorem readArgument_line {index : Text} (indexed : IsIndex index) (rest : Text) :
    readArgument (index ++ ':' :: rest) = some (argumentFrom index (describingWords rest)) := by
  rw [readArgument_eq_some_iff]
  exact ⟨index, rest, rfl, indexed, (argumentOf_eq_argumentFrom index _).symm⟩

theorem readArgument_inv {line : Text} {argument : Argument} (read : readArgument line = some argument) :
    ∃ index rest, IsIndex index ∧ line = index ++ ':' :: rest ∧
      argument = argumentFrom index (describingWords rest) := by
  obtain ⟨index, rest, whole, indexed, same⟩ := readArgument_eq_some_iff.mp read
  exact ⟨index, rest, indexed, whole, same.trans (argumentOf_eq_argumentFrom index _)⟩

theorem filterMap_typeOfWord? (words : List Text) :
    (words.filter typeWords.contains).filterMap typeOfWord? = words.filterMap typeOfWord? := by
  induction words with
  | nil => rfl
  | cons word rest ih =>
      have named := typeOfWord?_isSome word
      cases found : typeOfWord? word with
      | none =>
          rw [found] at named
          rw [List.filter_cons, ← named, List.filterMap_cons, found]
          exact ih
      | some type =>
          rw [found] at named
          rw [List.filter_cons, ← named, Option.isSome_some, if_pos rfl, List.filterMap_cons, found,
            List.filterMap_cons, found, ih]

theorem Rearranged.argumentFrom_eq {words others : List Text} (rearranged : Rearranged words others)
    (index : Text) : argumentFrom index others = argumentFrom index words := by
  have types : others.filterMap typeOfWord? = words.filterMap typeOfWord? := by
    rw [← filterMap_typeOfWord?, rearranged.types, filterMap_typeOfWord?]
  have optional : others.contains optionalWord = words.contains optionalWord := by
    rw [Bool.eq_iff_iff, List.contains_iff_mem, List.contains_iff_mem]
    exact rearranged.perm.mem_iff
  rw [argumentFrom, argumentFrom, rearranged.plain, types, optional]

theorem words_plain {text word : Text} (member : word ∈ Text.words text)
    (unmarked : markerWords.contains word = false) : PlainWord word where
  filled := by simpa using (List.mem_filter.mp member).2
  unbroken := fun c inside => (Text.mem_segmentsBy (List.mem_filter.mp member).1 c inside).2
  plain := by rw [isPlainWord_eq, unmarked, Bool.not_false]

/-- The words left in a description are no markers and survive being joined and split again. -/
theorem argumentFrom_plain {index : Text} (indexed : IsIndex index) (rest : Text) :
    PlainArgument (argumentFrom index (describingWords rest)) where
  index := by
    rcases indexed with rfl | ⟨filled, digits⟩
    · exact .inl ⟨rfl, rfl, rfl⟩
    · have numbered : index ≠ wildcardIndex := by
        rintro rfl
        exact absurd (digits '*' (by simp [wildcardIndex])) (by decide)
      exact .inr ⟨filled, digits, beq_eq_false_iff_ne.mpr numbered⟩
  desc := by
    refine ⟨_, rfl, fun word member => ?_⟩
    obtain ⟨inside, unmarked⟩ := List.mem_filter.mp member
    exact words_plain inside (by simpa using unmarked)

/-- A line is an argument exactly if an index and a colon start it. What it says is said by the index and
the words alone, so markers may be moved; and written anew, with the markers at the end, it says the
same. -/
theorem readArgument_normal (line : Text) :
    ((readArgument line).isSome = true ↔ ∃ index rest, IsIndex index ∧ line = index ++ ':' :: rest) ∧
    (∀ index rest, IsIndex index → line = index ++ ':' :: rest →
      readArgument line = some (argumentFrom index (describingWords rest)) ∧
      ∀ other, Rearranged (describingWords rest) (describingWords other) →
        readArgument (index ++ ':' :: other) = readArgument line) ∧
    ∀ argument, readArgument line = some argument →
      readArgument (renderArgument argument) = some argument := by
  refine ⟨⟨fun accepted => ?_, ?_⟩, ?_, fun argument read => ?_⟩
  · obtain ⟨argument, read⟩ := Option.isSome_iff_exists.mp accepted
    obtain ⟨index, rest, indexed, whole, _⟩ := readArgument_inv read
    exact ⟨index, rest, indexed, whole⟩
  · rintro ⟨index, rest, indexed, rfl⟩
    rw [readArgument_line indexed]
    rfl
  · rintro index rest indexed rfl
    refine ⟨readArgument_line indexed rest, fun other rearranged => ?_⟩
    rw [readArgument_line indexed, readArgument_line indexed, rearranged.argumentFrom_eq]
  · obtain ⟨index, rest, indexed, _, rfl⟩ := readArgument_inv read
    exact readArgument_renderArgument (argumentFrom_plain indexed rest)

/-- An argument with two types, of which the last counts, and a marker between its words; the second line
is no part of it. -/
def limitRest : Text :=
  " (String) Time\t[Optional] limit\u2003(Number)  in\u00a0ms\n[Optional] (Boolean)".toList

theorem readArgument_normal_limit :
    IsIndex "12".toList ∧
    Rearranged (describingWords limitRest)
      (describingWords "[Optional] Time limit (String) in (Number) ms".toList) ∧
    readArgument ("12:".toList ++ limitRest) =
      some { index := "12".toList, desc := "Time limit in ms".toList, type := .number, isOptional := true } ∧
    readArgument "12:[Optional] Time limit (String) in (Number) ms".toList =
      readArgument ("12:".toList ++ limitRest) ∧
    readArgument "12: Time limit in ms (Number) [Optional]".toList =
      readArgument ("12:".toList ++ limitRest) := by
  have indexed : IsIndex "12".toList := .inr ⟨by decide, List.all_eq_true.mp (by decide)⟩
  have words : describingWords limitRest =
      ["(String)", "Time", "[Optional]", "limit", "(Number)", "in", "ms"].map String.toList := by
    decide +kernel
  have movedWords : describingWords "[Optional] Time limit (String) in (Number) ms".toList =
      ["[Optional]", "Time", "limit", "(String)", "in", "(Number)", "ms"].map String.toList := by
    decide +kernel
  have rearranged : Rearranged (describingWords limitRest)
      (describingWords "[Optional] Time limit (String) in (Number) ms".toList) := by
    rw [words, movedWords]
    exact ⟨by decide +kernel, by decide +kernel, by decide +kernel⟩
  have said : argumentFrom "12".toList (describingWords limitRest) =
      { index := "12".toList, desc := "Time limit in ms".toList, type := .number, isOptional := true } := by
    rw [words]
    decide +kernel
  obtain ⟨_, reads, again⟩ := readArgument_normal ("12:".toList ++ limitRest)
  obtain ⟨read, moved⟩ := reads "12".toList limitRest indexed rfl
  refine ⟨indexed, rearranged, read.trans (congrArg some said), moved _ rearranged, ?_⟩
  rw [read, said]
  exact again _ (read.trans (congrArg some said))

end ScriptDocs.Comment
