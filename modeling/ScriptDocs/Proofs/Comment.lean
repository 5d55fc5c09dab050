import ScriptDocs.Comment.Function
import ScriptDocs.Proofs.Text

namespace ScriptDocs.Comment

open Text (OneLine)

/-!
What the readers of comment blocks give back. Each reader refuses exactly the empty and the private
blocks; what it gives otherwise is described field by field, so that nothing else unfolds it.
-/

theorem readVariable_eq_some_iff {name value : Text} {block : List Text} {found : Variable} :
    readVariable name value block = some found ↔
      (block ≠ [] ∧ isPrivate block = false) ∧
        found =
          { name
            desc := (extractType block).1
            type :=
              if (extractType block).2 = .unknown then guessType value else (extractType block).2
            value } := by
  unfold readVariable
  by_cases empty : block = []
  · simp [empty]
  · cases marked : isPrivate block with
    | true => simp
    | false =>
        simp only [List.isEmpty_eq_false_iff.mpr empty, Bool.or_self, Bool.false_eq_true, if_false,
          Option.some.injEq, ne_eq, empty, not_false_eq_true, and_self, true_and, beq_iff_eq]
        exact eq_comm

theorem readMethod_eq_some_iff {name : Text} {block : List Text} {method : Method} :
    readMethod name block = some method ↔
      (block ≠ [] ∧ isPrivate block = false) ∧
        method = applyDirectives { name, desc := clean (description block) } block := by
  unfold readMethod
  by_cases empty : block = []
  · simp [empty]
  · cases marked : isPrivate block with
    | true => simp
    | false =>
        simp only [List.isEmpty_eq_false_iff.mpr empty, Bool.or_self, Bool.false_eq_true, if_false,
          Option.some.injEq, ne_eq, empty, not_false_eq_true, and_self, true_and]
        exact eq_comm

/-- Directives add to a method and never touch its name, its description or its line. -/
theorem applyDirectives_frame (method : Method) (lines : List Text) :
    (applyDirectives method lines).name = method.name ∧
      (applyDirectives method lines).desc = method.desc ∧
      (applyDirectives method lines).line = method.line := by
  induction lines generalizing method with
  | nil => exact ⟨rfl, rfl, rfl⟩
  | cons line rest ih =>
      unfold applyDirectives
      cases said : directive line with
      | argument argument => exact ih _
      | code value =>
          obtain ⟨name, desc, number⟩ := ih (if isNegative value then method else { method with resultCode := true })
          refine ⟨name.trans ?_, desc.trans ?_, number.trans ?_⟩ <;> split <;> rfl
      | echo value =>
          obtain ⟨name, desc, number⟩ := ih (if isNegative value then method
            else { method with resultEcho := readVariable [] [] [value] })
          refine ⟨name.trans ?_, desc.trans ?_, number.trans ?_⟩ <;> split <;> rfl
      | startExample => exact ⟨rfl, rfl, rfl⟩
      | prose => exact ih method

theorem readVariable_exists (name value : Text) {block : List Text} (filled : block ≠ [])
    (shown : isPrivate block = false) : ∃ found, readVariable name value block = some found :=
  ⟨_, readVariable_eq_some_iff.mpr ⟨⟨filled, shown⟩, rfl⟩⟩

theorem readMethod_exists (name : Text) {block : List Text} (filled : block ≠ [])
    (shown : isPrivate block = false) : ∃ method, readMethod name block = some method :=
  ⟨_, readMethod_eq_some_iff.mpr ⟨⟨filled, shown⟩, rfl⟩⟩

theorem readMethod_desc {name : Text} {block : List Text} {method : Method}
    (read : readMethod name block = some method) : method.desc = clean (description block) := by
  rw [(readMethod_eq_some_iff.mp read).2]
  exact (applyDirectives_frame _ _).2.1

theorem dropTrailingEmpty_subset (lines : List Text) : dropTrailingEmpty lines ⊆ lines := by
  intro line member
  have inside := (List.dropWhile_sublist _).subset (List.mem_reverse.mp member)
  exact List.mem_reverse.mp inside

theorem clean_oneLine {lines : List Text} (one : ∀ line ∈ lines, OneLine line) :
    ∀ line ∈ clean lines, OneLine line := by
  intro line member
  obtain ⟨kept, inside, rfl⟩ := List.mem_map.mp member
  exact (one kept (dropTrailingEmpty_subset lines inside)).of_subset (Text.trimRight_subset ' ' kept)

theorem lastAnnotation?_subset {text before : Text} {type : ValueType}
    (found : lastAnnotation? text = some (before, type)) : before ⊆ text := by
  induction text generalizing before with
  | nil => simp [lastAnnotation?] at found
  | cons c rest ih =>
      unfold lastAnnotation? at found
      split at found
      · rename_i later _ laterFound
        cases found
        exact List.cons_subset_cons c (ih laterFound)
      · obtain ⟨_, _, same⟩ := Option.map_eq_some_iff.mp found
        cases same
        exact List.nil_subset _

theorem annotation?_subset {line before : Text} {type : ValueType}
    (found : annotation? line = some (before, type)) : before ⊆ line :=
  fun _ member => (List.takeWhile_sublist _).subset (lastAnnotation?_subset found member)

theorem stripMark_oneLine {lines : List Text} (one : ∀ line ∈ lines, OneLine line) :
    ∀ line ∈ (stripMark lines).1, OneLine line := by
  induction lines with
  | nil => simp [stripMark]
  | cons first rest ih =>
      have restOne := fun line member => one line (List.mem_cons_of_mem first member)
      unfold stripMark
      cases found : annotation? first with
      | some stripped =>
          intro line member
          rcases List.mem_cons.mp member with here | later
          · subst here
            exact (one first (by simp)).of_subset (annotation?_subset found)
          · exact restOne line later
      | none =>
          intro line member
          rcases List.mem_cons.mp member with here | later
          · exact here ▸ one first (by simp)
          · exact ih restOne line later

theorem extractType_oneLine {lines : List Text} (one : ∀ line ∈ lines, OneLine line) :
    ∀ line ∈ (extractType lines).1, OneLine line :=
  clean_oneLine (stripMark_oneLine one)

theorem guessType_eq_unknown_iff {value : Text} : guessType value = .unknown ↔ value = [] := by
  unfold guessType
  cases value with
  | nil => simp
  | cons first rest =>
      simp only [List.isEmpty_cons, Bool.false_eq_true, if_false, reduceCtorEq, iff_false]
      split
      · simp
      · split <;> simp

/-! ### Argument lines -/

/-- A word that stays in the description of an argument. -/
def isPlainWord (word : Text) : Bool :=
  (typeOfWord? word).isNone && word != optionalWord

theorem foldl_addWord (argument : Argument) (kept words : List Text) :
    words.foldl addWord (argument, kept) =
      ({ argument with
          type := ((words.filterMap typeOfWord?).getLast?).getD argument.type
          isOptional := argument.isOptional || words.contains optionalWord },
        kept ++ words.filter isPlainWord) := by
  induction words generalizing argument kept with
  | nil => simp
  | cons word rest ih =>
      have optionalNoType : typeOfWord? optionalWord = none := by decide
      rw [List.foldl_cons]
      cases named : typeOfWord? word with
      | some type =>
          have notOptional : word ≠ optionalWord := by
            intro same
            rw [same, optionalNoType] at named
            contradiction
          simp only [addWord, named]
          rw [ih]
          simp [named, isPlainWord, List.getLast?_cons, Ne.symm notOptional]
      | none =>
          by_cases optional : word = optionalWord
          · subst optional
            simp only [addWord, named, beq_self_eq_true, if_true]
            rw [ih]
            simp [isPlainWord, named]
          · have differs : (word == optionalWord) = false := by simpa using optional
            simp only [addWord, named, differs, Bool.false_eq_true, if_false]
            rw [ih]
            simp [isPlainWord, named, optional, Ne.symm optional]

theorem argumentOf_eq (index : Text) (words : List Text) :
    argumentOf index words =
      { index
        desc := Text.joinWith [' '] (words.filter isPlainWord)
        type := if index = wildcardIndex then .unknown
          else ((words.filterMap typeOfWord?).getLast?).getD .unknown
        isOptional := words.contains optionalWord
        isWildcard := index == wildcardIndex } := by
  unfold argumentOf
  rw [foldl_addWord]
  by_cases wildcard : index = wildcardIndex
  · simp [wildcard]
  · simp [wildcard]

/-- An index is the star or a number, and ends at the first colon. -/
theorem splitIndex?_eq_some_iff {line index rest : Text} :
    splitIndex? line = some (index, rest) ↔
      line = index ++ ':' :: rest ∧
        (index = wildcardIndex ∨ index ≠ [] ∧ ∀ c ∈ index, Text.isDigit c = true) := by
  constructor
  · intro found
    unfold splitIndex? at found
    split at found
    · cases found
      exact ⟨rfl, .inl rfl⟩
    · split at found
      · rename_i after dropped
        dsimp only at found
        split at found
        · contradiction
        · rename_i filled
          cases found
          refine ⟨?_, .inr ⟨by simpa using filled, List.all_eq_true.mp List.all_takeWhile⟩⟩
          rw [← dropped, List.takeWhile_append_dropWhile]
      · contradiction
  · rintro ⟨rfl, rfl | ⟨filled, digits⟩⟩
    · rfl
    · have colon : Text.isDigit ':' = false := by decide
      obtain ⟨taken, dropped⟩ := Text.span_stop rest digits colon
      unfold splitIndex?
      split
      · rename_i after same
        cases index with
        | nil => exact absurd rfl filled
        | cons first more =>
            have star : first = '*' := (List.cons.inj same).1
            have digit := digits first (by simp)
            rw [star] at digit
            exact absurd digit (by decide)
      · simp [dropped, taken, filled]

theorem readArgument_eq_some_iff {line : Text} {argument : Argument} :
    readArgument line = some argument ↔
      ∃ index rest, line = index ++ ':' :: rest ∧
        (index = wildcardIndex ∨ index ≠ [] ∧ ∀ c ∈ index, Text.isDigit c = true) ∧
        argument = argumentOf index (Text.words (rest.takeWhile (· != '\n'))) := by
  unfold readArgument
  rw [Option.map_eq_some_iff]
  constructor
  · rintro ⟨⟨index, rest⟩, split, same⟩
    obtain ⟨whole, indexed⟩ := splitIndex?_eq_some_iff.mp split
    exact ⟨index, rest, whole, indexed, same.symm⟩
  · rintro ⟨index, rest, whole, indexed, same⟩
    exact ⟨(index, rest), splitIndex?_eq_some_iff.mpr ⟨whole, indexed⟩, same.symm⟩

/-! ### What comments can say -/

/-- All texts of an argument, of a variable, of a function. -/
def argumentTexts (argument : Argument) : List Text :=
  [argument.index, argument.desc]

def variableTexts (entity : Variable) : List Text :=
  entity.name :: entity.value :: entity.desc

def methodTexts (method : Method) : List Text :=
  method.name :: method.desc ++ method.arguments.flatMap argumentTexts ++
    method.resultEcho.toList.flatMap variableTexts ++ method.exampleLines.getD []

/-- An argument is either the wildcard, which has no type, or numbered. -/
structure ArgumentWellFormed (argument : Argument) : Prop where
  index : argument.index = wildcardIndex ∧ argument.isWildcard = true ∧ argument.type = .unknown ∨
    argument.index ≠ [] ∧ (∀ c ∈ argument.index, Text.isDigit c = true) ∧ argument.isWildcard = false
  oneLine : ∀ text ∈ argumentTexts argument, OneLine text

/-- An echoed value has a description and a type, and nothing of an assignment. -/
structure EchoWellFormed (echo : Variable) : Prop where
  name : echo.name = []
  value : echo.value = []
  line : echo.line = 0
  oneLine : ∀ text ∈ echo.desc, OneLine text

/-- What the directives of a function's comment may have added to it. -/
structure DirectivesWellFormed (method : Method) : Prop where
  arguments : ∀ argument ∈ method.arguments, ArgumentWellFormed argument
  echo : ∀ echo, method.resultEcho = some echo → EchoWellFormed echo
  exampleFilled : method.exampleLines ≠ some []
  exampleOneLine : ∀ text ∈ method.exampleLines.getD [], OneLine text

theorem readArgument_wellFormed {line : Text} {argument : Argument} (one : OneLine line)
    (read : readArgument line = some argument) : ArgumentWellFormed argument := by
  obtain ⟨index, rest, whole, indexed, rfl⟩ := readArgument_eq_some_iff.mp read
  rw [argumentOf_eq]
  refine ⟨?_, ?_⟩
  · rcases indexed with wildcard | ⟨filled, digits⟩
    · exact .inl ⟨wildcard, by simp [wildcard], by simp [wildcard]⟩
    · have notStar : index ≠ wildcardIndex := by
        rintro rfl
        exact absurd (digits '*' (by simp [wildcardIndex])) (by decide)
      exact .inr ⟨filled, digits, by simpa using notStar⟩
  · have inLine : ∀ part : Text, part ⊆ line → OneLine part := fun part within => one.of_subset within
    intro text member
    rcases List.mem_cons.mp member with indexText | described
    · rw [indexText]
      exact inLine index (by rw [whole]; exact List.subset_append_left _ _)
    · rw [List.mem_singleton.mp described]
      refine OneLine.joinWith (by simp [OneLine]) (fun word kept => inLine word ?_)
      intro c inside
      have inRest := (List.takeWhile_sublist _).subset
        (Text.words_subset (List.mem_filter.mp kept).1 inside)
      rw [whole]
      exact List.mem_append_right _ (List.mem_cons_of_mem _ inRest)

theorem directiveValue?_subset {name line value : Text}
    (found : directiveValue? name line = some value) : value ⊆ line := by
  obtain ⟨after, cut, rfl⟩ := Option.map_eq_some_iff.mp found
  unfold Text.after? at cut
  split at cut
  · cases cut
    exact fun c member => (List.drop_sublist _ _).subset ((List.drop_sublist _ _).subset member)
  · contradiction

theorem directive_argument {line : Text} {argument : Argument}
    (said : directive line = .argument argument) : readArgument line = some argument := by
  unfold directive at said
  split at said
  · cases said
    assumption
  · split at said
    · contradiction
    · split at said
      · contradiction
      · split at said <;> contradiction

theorem directive_echo {line value : Text} (said : directive line = .echo value) :
    directiveValue? "Echo:".toList line = some value := by
  unfold directive at said
  split at said
  · contradiction
  · split at said
    · contradiction
    · split at said
      · cases said
        assumption
      · split at said <;> contradiction

theorem readVariable_echo {value : Text} (one : OneLine value) {echo : Variable}
    (read : readVariable [] [] [value] = some echo) : EchoWellFormed echo := by
  obtain ⟨_, rfl⟩ := readVariable_eq_some_iff.mp read
  have blockOne : ∀ line ∈ [value], OneLine line := by simpa using one
  exact ⟨rfl, rfl, rfl, extractType_oneLine blockOne⟩

/-- Each line of a comment keeps what was added before it well-formed, and so does the whole block. -/
theorem applyDirectives_wellFormed {method : Method} {lines : List Text}
    (one : ∀ line ∈ lines, OneLine line) (start : DirectivesWellFormed method) :
    DirectivesWellFormed (applyDirectives method lines) := by
  induction lines generalizing method with
  | nil => exact start
  | cons line rest ih =>
      have lineOne := one line (by simp)
      have restOne := fun later member => one later (List.mem_cons_of_mem line member)
      unfold applyDirectives
      cases said : directive line with
      | argument argument =>
          refine ih restOne ⟨?_, start.echo, start.exampleFilled, start.exampleOneLine⟩
          intro other member
          rcases List.mem_append.mp member with earlier | last
          · exact start.arguments other earlier
          · rw [List.mem_singleton.mp last]
            exact readArgument_wellFormed lineOne (directive_argument said)
      | code value =>
          apply ih restOne
          split
          · exact start
          · exact ⟨start.arguments, start.echo, start.exampleFilled, start.exampleOneLine⟩
      | echo value =>
          apply ih restOne
          split
          · exact start
          · have valueOne := lineOne.of_subset (directiveValue?_subset (directive_echo said))
            exact ⟨start.arguments, fun echo read => readVariable_echo valueOne read,
              start.exampleFilled, start.exampleOneLine⟩
      | startExample =>
          refine ⟨start.arguments, start.echo, ?_, ?_⟩
          · cases cleaned : clean rest <;> simp
          · intro text member
            cases cleaned : clean rest with
            | nil => simp [cleaned] at member
            | cons first more =>
                have inside : text ∈ clean rest := by simpa [cleaned] using member
                exact clean_oneLine restOne text inside
      | prose => exact ih restOne start

theorem readMethod_wellFormed {name : Text} {block : List Text} {method : Method}
    (one : ∀ line ∈ block, OneLine line) (read : readMethod name block = some method) :
    DirectivesWellFormed method ∧ ∀ text ∈ method.desc, OneLine text := by
  constructor
  · rw [(readMethod_eq_some_iff.mp read).2]
    exact applyDirectives_wellFormed one ⟨by simp, by simp, by simp, by simp⟩
  · rw [readMethod_desc read]
    exact clean_oneLine (fun line member => one line ((List.takeWhile_sublist _).subset member))

end ScriptDocs.Comment
