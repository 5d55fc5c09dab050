import ScriptDocs.Proofs.Comment
import ScriptDocs.Proofs.Script

namespace ScriptDocs.Comment

open Script (FitsLine PlainComment)
open Text (OneLine)

/-!
Comments written for an entity, and the conditions under which the readers give the entity back. What
is excluded is what the comment grammar would take for something else: privacy markers and directives
in a description, type marks that the writer did not put there, lines that do not survive as lines.
-/

/-- The fragment that names a type; an unknown type is not named. -/
def typeMark : ValueType → Text
  | .unknown => []
  | .boolean => " (Boolean)".toList
  | .string => " (String)".toList
  | .number => " (Number)".toList

def appendToLast (suffix : Text) : List Text → List Text
  | [] => []
  | [line] => [line ++ suffix]
  | line :: rest => line :: appendToLast suffix rest

/-- The comment of an assignment. Its type is named where the value would suggest another one, or
always if types are to be spelled out. -/
def variableComment (spelled : Bool) (entity : Variable) : List Text :=
  appendToLast
    (if spelled || entity.type != guessType entity.value then typeMark entity.type else [])
    entity.desc

def optionalMark (isOptional : Bool) : Text :=
  if isOptional then ' ' :: optionalWord else []

def renderArgument (argument : Argument) : Text :=
  argument.index ++
    ':' :: ' ' :: (argument.desc ++ typeMark argument.type ++ optionalMark argument.isOptional)

def renderEcho (echo : Variable) : Text :=
  "Echo: ".toList ++ (echo.desc.flatten ++ typeMark echo.type)

def exampleBlock : Option (List Text) → List Text
  | none => []
  | some lines => "Example:".toList :: lines

def directiveLines (method : Method) : List Text :=
  method.arguments.map renderArgument ++
    ((if method.resultCode then ["Code: Yes".toList] else []) ++
      (method.resultEcho.toList.map renderEcho ++ exampleBlock method.exampleLines))

/-- The comment of a function: its description, then its directives. -/
def methodComment (method : Method) : List Text :=
  method.desc ++ directiveLines method

/-! ### What can be written -/

structure PlainLine (line : Text) : Prop extends PlainComment line where
  noSpace : line.getLast? ≠ some ' '

/-- Lines of text of which the last is not empty. -/
structure Paragraphs (lines : List Text) : Prop where
  plain : ∀ line ∈ lines, PlainLine line
  filled : lines ≠ []
  ended : lines.getLast? ≠ some []

def Unmarked (line : Text) : Prop :=
  ∀ type ∈ [ValueType.boolean, .string, .number], Text.includes (typeMark type) line = false

instance (line : Text) : Decidable (PlainLine line) :=
  decidable_of_iff (PlainComment line ∧ line.getLast? ≠ some ' ')
    ⟨fun ⟨plain, noSpace⟩ => ⟨plain, noSpace⟩, fun line => ⟨line.toPlainComment, line.noSpace⟩⟩

instance (line : Text) : Decidable (Unmarked line) :=
  inferInstanceAs (Decidable (∀ type ∈ [ValueType.boolean, .string, .number],
    Text.includes (typeMark type) line = false))

instance (lines : List Text) : Decidable (Paragraphs lines) :=
  decidable_of_iff ((∀ line ∈ lines, PlainLine line) ∧ lines ≠ [] ∧ lines.getLast? ≠ some [])
    ⟨fun ⟨plain, filled, ended⟩ => ⟨plain, filled, ended⟩,
      fun paragraphs => ⟨paragraphs.plain, paragraphs.filled, paragraphs.ended⟩⟩

structure PlainVariable (entity : Variable) : Prop where
  named : entity.name ≠ []
  nameChars : ∀ c ∈ entity.name, Script.isAssignedNameChar c = true
  desc : Paragraphs entity.desc
  shown : isPrivate entity.desc = false
  unmarked : ∀ line ∈ entity.desc, Unmarked line
  value : FitsLine entity.value
  closed : opensString entity.value = false
  type : entity.type ≠ .unknown ∨ entity.type = guessType entity.value

/-- A word that can stand in the description of an argument. -/
structure PlainWord (word : Text) : Prop where
  filled : word ≠ []
  unbroken : ∀ c ∈ word, Text.isBlank c = false
  plain : isPlainWord word = true

instance (word : Text) : Decidable (PlainWord word) :=
  decidable_of_iff
    (word ≠ [] ∧ word.all (fun c => !Text.isBlank c) = true ∧ isPlainWord word = true) <| by
    simp only [List.all_eq_true, Bool.not_eq_true']
    exact ⟨fun ⟨filled, unbroken, plain⟩ => ⟨filled, unbroken, plain⟩,
      fun word => ⟨word.filled, word.unbroken, word.plain⟩⟩

structure PlainArgument (argument : Argument) : Prop where
  index : argument.index = wildcardIndex ∧ argument.isWildcard = true ∧ argument.type = .unknown ∨
    argument.index ≠ [] ∧ (∀ c ∈ argument.index, Text.isDigit c = true) ∧ argument.isWildcard = false
  desc : ∃ words, argument.desc = Text.joinWith [' '] words ∧ ∀ word ∈ words, PlainWord word

/-- A text that says what is echoed. With a type mark after it, a marker in it does no harm. -/
structure EchoText (type : ValueType) (text : Text) : Prop extends PlainLine text where
  filled : text ≠ []
  affirmed : isNegative text = false
  shown : type = .unknown → isPrivate [text] = false
  unmarked : type = .unknown → Unmarked text

structure PlainEcho (echo : Variable) : Prop where
  name : echo.name = []
  value : echo.value = []
  line : echo.line = 0
  desc : echo.desc = [] ∨ ∃ text, echo.desc = [text] ∧ EchoText echo.type text

structure PlainMethod (method : Method) : Prop where
  named : method.name ≠ []
  nameChars : ∀ c ∈ method.name, Script.isMethodNameChar c = true
  desc : Paragraphs method.desc
  shown : isPrivate method.desc = false
  noArgument : ∀ line ∈ method.desc, readArgument line = none
  noDirective : ∀ line ∈ method.desc, ∀ directive ∈ ["Code:", "Echo:", "Example:"],
    directive.toList.isPrefixOf line = false
  arguments : ∀ argument ∈ method.arguments, PlainArgument argument
  echo : ∀ echo, method.resultEcho = some echo → PlainEcho echo
  exampleLines : ∀ lines, method.exampleLines = some lines → Paragraphs lines

/-! ### Type marks -/

@[simp] theorem typeMark_unknown : typeMark .unknown = [] := rfl

@[simp] theorem appendToLast_nil (lines : List Text) : appendToLast [] lines = lines := by
  fun_induction appendToLast [] lines with
  | case1 => rfl
  | case2 line => rw [List.append_nil]
  | case3 line rest further ih => rw [ih]

@[simp] theorem appendToLast_length (suffix : Text) (lines : List Text) :
    (appendToLast suffix lines).length = lines.length := by
  fun_induction appendToLast suffix lines with
  | case1 => rfl
  | case2 => rfl
  | case3 line rest further ih => rw [List.length_cons, List.length_cons, ih]

theorem typeMark_of_word : ∀ named ∈ annotationWords,
    named.2 ∈ [ValueType.boolean, .string, .number] ∧
    typeMark named.2 = " (".toList ++ named.1 ++ ")".toList := by
  decide

theorem annotationAt?_eq_none {text : Text}
    (unmarked : ∀ type ∈ [ValueType.boolean, .string, .number], (typeMark type).isPrefixOf text = false) :
    annotationAt? text = none := by
  refine Option.map_eq_none_iff.mpr (List.find?_eq_none.mpr (fun named member => ?_))
  obtain ⟨known, mark⟩ := typeMark_of_word named member
  rw [← mark, unmarked named.2 known]
  exact Bool.false_ne_true

theorem lastAnnotation?_typeMark {type : ValueType} (known : type ≠ .unknown) (text : Text) :
    lastAnnotation? (text ++ typeMark type) = some (text, type) := by
  induction text with
  | nil => cases type <;> first | exact absurd rfl known | decide
  | cons c rest ih => rw [List.cons_append, lastAnnotation?, ih]

theorem lastAnnotation?_unmarked {text : Text} (unmarked : Unmarked text) : lastAnnotation? text = none := by
  induction text with
  | nil => rfl
  | cons c rest ih =>
      have apart : ∀ type ∈ [ValueType.boolean, .string, .number],
          (typeMark type).isPrefixOf (c :: rest) = false ∧
            Text.includes (typeMark type) rest = false := by
        intro type known
        simpa only [Text.includes, Bool.or_eq_false_iff] using unmarked type known
      rw [lastAnnotation?, ih (fun type known => (apart type known).2),
        annotationAt?_eq_none (fun type known => (apart type known).1)]
      rfl

theorem takeWhile_oneLine {text : Text} (one : OneLine text) : text.takeWhile (· != '\n') = text := by
  have kept : ∀ c ∈ text, (c != '\n') = true := by
    intro c member
    rw [bne_iff_ne]
    rintro rfl
    exact one member
  rw [← List.append_nil text, List.takeWhile_append_of_pos kept]
  rfl

theorem typeMark_plain (type : ValueType) : FitsLine (typeMark type) ∧ '=' ∉ typeMark type := by
  cases type <;> decide

theorem annotation?_unmarked {line : Text} (one : OneLine line) (unmarked : Unmarked line) :
    annotation? line = none := by
  rw [annotation?, takeWhile_oneLine one, lastAnnotation?_unmarked unmarked]

theorem stripMark_typeMark {type : ValueType} {line : Text} (one : OneLine line)
    (unmarked : type = .unknown → Unmarked line) :
    stripMark [line ++ typeMark type] = ([line], type) := by
  have markedOne := one.append (typeMark_plain type).1.oneLine
  by_cases known : type = .unknown
  · rw [known, typeMark_unknown, List.append_nil, stripMark,
      annotation?_unmarked one (unmarked known)]
    rfl
  · rw [stripMark, annotation?, takeWhile_oneLine markedOne, lastAnnotation?_typeMark known]

/-- The mark on the last line is the first one a reader meets. -/
theorem stripMark_appendToLast (type : ValueType) {lines : List Text} (filled : lines ≠ [])
    (one : ∀ line ∈ lines, OneLine line) (unmarked : ∀ line ∈ lines, Unmarked line) :
    stripMark (appendToLast (typeMark type) lines) = (lines, type) := by
  induction lines with
  | nil => exact absurd rfl filled
  | cons line rest ih =>
      have lineOne := one line (by simp)
      have lineUnmarked := unmarked line (by simp)
      cases rest with
      | nil => exact stripMark_typeMark lineOne (fun _ => lineUnmarked)
      | cons next rest =>
          have later := ih (List.cons_ne_nil next rest)
            (fun line member => one line (List.mem_cons_of_mem _ member))
            (fun line member => unmarked line (List.mem_cons_of_mem _ member))
          rw [appendToLast, stripMark, annotation?_unmarked lineOne lineUnmarked]
          · dsimp only
            rw [later]
          · exact List.cons_ne_nil next rest

theorem Paragraphs.comments {lines : List Text} (paragraphs : Paragraphs lines) :
    ∀ line ∈ lines, PlainComment line :=
  fun line member => (paragraphs.plain line member).toPlainComment

theorem clean_paragraphs {lines : List Text} (paragraphs : Paragraphs lines) : clean lines = lines := by
  have kept : dropTrailingEmpty lines = lines := by
    obtain ⟨front, last, rfl⟩ := List.eq_nil_or_concat lines |>.resolve_left paragraphs.filled
    have filled : last ≠ [] := by simpa using paragraphs.ended
    simp [dropTrailingEmpty, filled]
  have trimmed : lines.map (Text.trimRight ' ') = lines.map id :=
    List.map_congr_left (fun line member => Text.trimRight_id (paragraphs.plain line member).noSpace)
  rw [clean, kept, trimmed, List.map_id]

theorem extractType_appendToLast (type : ValueType) {lines : List Text} (paragraphs : Paragraphs lines)
    (unmarked : ∀ line ∈ lines, Unmarked line) :
    extractType (appendToLast (typeMark type) lines) = (lines, type) := by
  have one : ∀ line ∈ lines, OneLine line := fun line member => (paragraphs.plain line member).oneLine
  rw [extractType, stripMark_appendToLast type paragraphs.filled one unmarked]
  dsimp only
  rw [clean_paragraphs paragraphs]

/-- A mark does not make a line private. -/
theorem isPrivate_typeMark {type : ValueType} {first : Text}
    (shown : type = .unknown → isPrivate [first] = false) : isPrivate [first ++ typeMark type] = false := by
  by_cases known : type = .unknown
  · rw [known, typeMark_unknown, List.append_nil]
    exact shown known
  · have closing : (first ++ typeMark type).getLast? = some ')' := by
      rw [List.getLast?_append]
      cases type <;> first | exact absurd rfl known | rfl
    have otherEnd : ∀ word ∈ privacyMarkers, word.getLast? ≠ some ')' := by decide
    rw [isPrivate, Text.trimRight_id (by rw [closing]; decide), ← Bool.not_eq_true,
      List.contains_iff_mem]
    intro member
    exact otherEnd _ member closing

theorem isPrivate_appendToLast (type : ValueType) {lines : List Text} (shown : isPrivate lines = false) :
    isPrivate (appendToLast (typeMark type) lines) = false := by
  cases lines with
  | nil => rfl
  | cons first rest =>
      cases rest with
      | nil => exact isPrivate_typeMark (fun _ => shown)
      | cons next rest => exact shown

theorem readVariable_variableComment (spelled : Bool) {entity : Variable} (plain : PlainVariable entity) :
    readVariable entity.name entity.value (variableComment spelled entity) =
      some { entity with line := 0 } := by
  have named : ∃ type, variableComment spelled entity = appendToLast (typeMark type) entity.desc ∧
      entity.type = if type = .unknown then guessType entity.value else type := by
    unfold variableComment
    by_cases written : (spelled || entity.type != guessType entity.value) = true
    · refine ⟨entity.type, by rw [if_pos written], ?_⟩
      rcases plain.type with known | guessed
      · rw [if_neg known]
      · rw [← guessed, ite_self]
    · refine ⟨.unknown, by rw [if_neg written]; rfl, ?_⟩
      simp only [Bool.or_eq_true, bne_iff_ne, not_or, Decidable.not_not] at written
      simpa using written.2
  obtain ⟨type, comment, typed⟩ := named
  have extracted := extractType_appendToLast type plain.desc plain.unmarked
  rw [comment, readVariable_eq_some_iff, extracted]
  refine ⟨⟨?_, isPrivate_appendToLast type plain.shown⟩, ?_⟩
  · rw [← List.length_pos_iff, appendToLast_length, List.length_pos_iff]
    exact plain.desc.filled
  · rw [← typed]

/-! ### Argument lines -/

/-- A mark is a word of its own. -/
theorem words_append_typeMark (text : Text) (type : ValueType) :
    Text.words (text ++ typeMark type) = Text.words text ++ Text.words (typeMark type) := by
  have blank : Text.isBlank ' ' = true := by decide
  cases type with
  | unknown => simp [Text.words, Text.segmentsBy]
  | string => exact Text.words_append blank text _
  | number => exact Text.words_append blank text _
  | boolean => exact Text.words_append blank text _

theorem words_append_optionalMark (text : Text) (isOptional : Bool) :
    Text.words (text ++ optionalMark isOptional) =
      Text.words text ++ Text.words (optionalMark isOptional) := by
  have blank : Text.isBlank ' ' = true := by decide
  cases isOptional with
  | false => simp [optionalMark, Text.words, Text.segmentsBy]
  | true => exact Text.words_append blank text optionalWord

theorem words_typeMark (type : ValueType) :
    (Text.words (typeMark type)).filter isPlainWord = [] ∧
      ((Text.words (typeMark type)).filterMap typeOfWord?).getLast?.getD .unknown = type ∧
      (Text.words (typeMark type)).contains optionalWord = false := by
  cases type <;> decide

theorem words_optionalMark (isOptional : Bool) :
    (Text.words (optionalMark isOptional)).filter isPlainWord = [] ∧
      (Text.words (optionalMark isOptional)).filterMap typeOfWord? = [] ∧
      (Text.words (optionalMark isOptional)).contains optionalWord = isOptional := by
  cases isOptional <;> decide

theorem plainWords {words : List Text} (plain : ∀ word ∈ words, PlainWord word) :
    words.filter isPlainWord = words ∧ words.filterMap typeOfWord? = [] ∧
      words.contains optionalWord = false := by
  have unmarked : ∀ word ∈ words, typeOfWord? word = none ∧ word ≠ optionalWord := by
    intro word member
    simpa [isPlainWord] using (plain word member).plain
  refine ⟨List.filter_eq_self.mpr (fun word member => (plain word member).plain),
    List.filterMap_eq_nil_iff.mpr (fun word member => (unmarked word member).1), ?_⟩
  rw [← Bool.not_eq_true, List.contains_iff_mem]
  exact fun member => (unmarked _ member).2 rfl

theorem argument_chars {argument : Argument} (plain : PlainArgument argument) :
    ∀ c ∈ renderArgument argument, c ≠ '\n' ∧ c ≠ '\r' := by
  obtain ⟨words, described, allPlain⟩ := plain.desc
  intro c member
  simp only [renderArgument, List.mem_append, List.mem_cons] at member
  rcases member with indexed | rfl | rfl | (inDesc | inType) | inOptional
  · rcases plain.index with ⟨wildcard, _, _⟩ | ⟨_, digits, _⟩
    · rw [wildcard, wildcardIndex, List.mem_singleton] at indexed
      subst indexed
      decide
    · have digit := digits c indexed
      constructor <;> rintro rfl <;> exact absurd digit (by decide)
  · decide
  · decide
  · rw [described] at inDesc
    rcases Text.mem_joinWith inDesc with space | ⟨word, inside, inWord⟩
    · rw [List.mem_singleton.mp space]
      decide
    · have unbroken := (allPlain word inside).unbroken c inWord
      constructor <;> rintro rfl <;> exact absurd unbroken (by decide)
  · have apart : (typeMark argument.type).all (fun c => c != '\n' && c != '\r') = true := by
      cases argument.type <;> decide
    simpa using List.all_eq_true.mp apart c inType
  · have apart : (optionalMark argument.isOptional).all (fun c => c != '\n' && c != '\r') = true := by
      cases argument.isOptional <;> decide
    simpa using List.all_eq_true.mp apart c inOptional

theorem readArgument_renderArgument {argument : Argument} (plain : PlainArgument argument) :
    readArgument (renderArgument argument) = some argument := by
  obtain ⟨words, described, allPlain⟩ := plain.desc
  have kept : Text.words argument.desc = words := by
    rw [described]
    exact Text.words_joinWith (fun word member => (allPlain word member).filled)
      (fun word member => (allPlain word member).unbroken)
  obtain ⟨wordsKept, wordsUntyped, wordsNeeded⟩ := plainWords allPlain
  obtain ⟨markDropped, markTyped, markNeeded⟩ := words_typeMark argument.type
  obtain ⟨optionalDropped, optionalUntyped, optionalNoted⟩ := words_optionalMark argument.isOptional
  have one : OneLine (' ' :: (argument.desc ++ typeMark argument.type ++
      optionalMark argument.isOptional)) := by
    intro newline
    refine (argument_chars plain '\n' ?_).1 rfl
    exact List.mem_append_right _ (List.mem_cons_of_mem _ newline)
  have blank : Text.isBlank ' ' = true := by decide
  rw [readArgument_eq_some_iff]
  refine ⟨argument.index, _, rfl, ?_, ?_⟩
  · rcases plain.index with ⟨wildcard, _, _⟩ | ⟨filled, digits, _⟩
    · exact .inl wildcard
    · exact .inr ⟨filled, digits⟩
  · have allWords : Text.words (' ' :: (argument.desc ++ typeMark argument.type ++
        optionalMark argument.isOptional)) =
        words ++ Text.words (typeMark argument.type) ++ Text.words (optionalMark argument.isOptional) := by
      rw [← kept, ← words_append_typeMark, ← words_append_optionalMark]
      exact Text.words_append blank [] _
    rw [takeWhile_oneLine one, allWords, argumentOf_eq]
    have noted : (words ++ Text.words (typeMark argument.type) ++
        Text.words (optionalMark argument.isOptional)).contains optionalWord = argument.isOptional := by
      simp only [List.contains_eq_any_beq, List.any_append] at wordsNeeded markNeeded optionalNoted ⊢
      rw [wordsNeeded, markNeeded, optionalNoted, Bool.or_self, Bool.false_or]
    simp only [List.filter_append, List.filterMap_append, wordsKept, wordsUntyped, markDropped,
      optionalDropped, optionalUntyped, List.append_nil, List.nil_append, markTyped, noted]
    rw [← described]
    rcases plain.index with ⟨wildcard, star, untyped⟩ | ⟨_, digits, numbered⟩
    · rw [if_pos wildcard, ← untyped, wildcard, beq_self_eq_true, ← star, ← wildcard]
    · have notStar : argument.index ≠ wildcardIndex := by
        intro same
        exact absurd (digits '*' (by rw [same]; simp [wildcardIndex])) (by decide)
      rw [if_neg notStar, beq_eq_false_iff_ne.mpr notStar, ← numbered]

/-! ### Directives -/

theorem directive_echo_line (value : Text) : directive ("Echo: ".toList ++ value) = .echo value := rfl

theorem directive_renderEcho (echo : Variable) :
    directive (renderEcho echo) = .echo (echo.desc.flatten ++ typeMark echo.type) :=
  directive_echo_line (echo.desc.flatten ++ typeMark echo.type)

theorem directive_code_line : directive "Code: Yes".toList = .code "Yes".toList := by decide

theorem directive_example_line : directive "Example:".toList = .startExample := by decide

theorem directive_renderArgument {argument : Argument} (plain : PlainArgument argument) :
    directive (renderArgument argument) = .argument argument := by
  rw [directive, readArgument_renderArgument plain]

theorem directive_prose {line : Text} (noArgument : readArgument line = none)
    (noDirective : ∀ directive ∈ ["Code:", "Echo:", "Example:"],
      directive.toList.isPrefixOf line = false) : directive line = .prose := by
  have code := noDirective "Code:" (by simp)
  have echo := noDirective "Echo:" (by simp)
  have starts := noDirective "Example:" (by simp)
  rw [directive, noArgument]
  simp only [directiveValue?, Text.after?, code, echo, starts, Bool.false_eq_true, if_false,
    Option.map_none]

theorem prefix_before_space {word left right : Text} (noSpace : ' ' ∉ word)
    (starts : word <+: left ++ ' ' :: right) : word <+: left := by
  obtain ⟨rest, whole⟩ := starts
  rcases List.append_eq_append_iff.mp whole with ⟨more, same, _⟩ | ⟨more, same, spaced⟩
  · exact ⟨more, same.symm⟩
  · cases more with
    | nil => exact ⟨[], by rw [same, List.append_nil, List.append_nil]⟩
    | cons first more =>
        have space : first = ' ' := (List.cons.inj spaced).1.symm
        exact absurd (by rw [same, space]; simp) noSpace

/-- A mark does not turn a value into one that declines. -/
theorem isNegative_typeMark {text : Text} (affirmed : isNegative text = false) (type : ValueType) :
    isNegative (text ++ typeMark type) = false := by
  have marked : type = .unknown ∨ ∃ rest, (typeMark type).map Text.foldCase = ' ' :: rest := by
    cases type with
    | unknown => exact .inl rfl
    | string => exact .inr ⟨_, rfl⟩
    | number => exact .inr ⟨_, rfl⟩
    | boolean => exact .inr ⟨_, rfl⟩
  rcases marked with rfl | ⟨rest, mark⟩
  · rw [typeMark_unknown, List.append_nil]
    exact affirmed
  · have noSpace : ∀ word ∈ ["none".toList, "no".toList, "false".toList], ' ' ∉ word := by decide
    rw [← Bool.not_eq_true] at affirmed ⊢
    intro negative
    obtain ⟨word, member, starts⟩ := List.any_eq_true.mp negative
    rw [List.isPrefixOf_iff_prefix, List.map_append, mark] at starts
    refine affirmed (List.any_eq_true.mpr ⟨word, member, ?_⟩)
    exact List.isPrefixOf_iff_prefix.mpr (prefix_before_space (noSpace word member) starts)

theorem readVariable_typeMark (type : ValueType) :
    readVariable [] [] [typeMark type] = some { name := [], type } := by
  cases type <;> decide

theorem readVariable_renderEcho {echo : Variable} (plain : PlainEcho echo) :
    readVariable [] [] [echo.desc.flatten ++ typeMark echo.type] = some echo := by
  obtain ⟨name, desc, type, value, line⟩ := echo
  obtain ⟨rfl, rfl, rfl, silent | ⟨text, said, echoed⟩⟩ := plain
  · subst silent
    exact readVariable_typeMark type
  · subst said
    have paragraphs : Paragraphs [text] :=
      ⟨by simpa using echoed.toPlainLine, by simp, by simpa using echoed.filled⟩
    have extracted : extractType [text ++ typeMark type] = ([text], type) := by
      rw [extractType, stripMark_typeMark echoed.oneLine echoed.unmarked]
      dsimp only
      rw [clean_paragraphs paragraphs]
    rw [List.flatten_singleton, readVariable_eq_some_iff, extracted]
    refine ⟨⟨by simp, isPrivate_typeMark echoed.shown⟩, ?_⟩
    cases type <;> rfl

theorem isNegative_renderEcho {echo : Variable} (plain : PlainEcho echo) :
    isNegative (echo.desc.flatten ++ typeMark echo.type) = false := by
  apply isNegative_typeMark
  rcases plain.desc with silent | ⟨text, said, echoed⟩
  · rw [silent]
    decide
  · rw [said, List.flatten_singleton]
    exact echoed.affirmed

/-! ### Whole comments -/

theorem applyDirectives_prose (method : Method) {lines : List Text} (rest : List Text)
    (prose : ∀ line ∈ lines, directive line = .prose) :
    applyDirectives method (lines ++ rest) = applyDirectives method rest := by
  induction lines with
  | nil => rfl
  | cons line lines ih =>
      rw [List.cons_append, applyDirectives, prose line (by simp)]
      exact ih (fun later member => prose later (List.mem_cons_of_mem line member))

theorem applyDirectives_arguments (method : Method) {arguments : List Argument} (rest : List Text)
    (plain : ∀ argument ∈ arguments, PlainArgument argument) :
    applyDirectives method (arguments.map renderArgument ++ rest) =
      applyDirectives { method with arguments := method.arguments ++ arguments } rest := by
  induction arguments generalizing method with
  | nil => rw [List.append_nil]; rfl
  | cons argument arguments ih =>
      rw [List.map_cons, List.cons_append, applyDirectives,
        directive_renderArgument (plain argument (by simp))]
      dsimp only
      rw [ih _ (fun later member => plain later (List.mem_cons_of_mem argument member))]
      rw [List.append_assoc, List.singleton_append]

theorem applyDirectives_code (method : Method) (resultCode : Bool) (rest : List Text) :
    applyDirectives method ((if resultCode then ["Code: Yes".toList] else []) ++ rest) =
      applyDirectives { method with resultCode := method.resultCode || resultCode } rest := by
  cases resultCode with
  | false => rw [Bool.or_false]; rfl
  | true =>
      have affirmed : isNegative "Yes".toList = false := by decide
      rw [if_pos rfl, List.singleton_append, applyDirectives, directive_code_line]
      dsimp only
      rw [affirmed, Bool.or_true]
      rfl

theorem applyDirectives_echo (method : Method) {resultEcho : Option Variable} (rest : List Text)
    (plain : ∀ echo, resultEcho = some echo → PlainEcho echo) :
    applyDirectives method (resultEcho.toList.map renderEcho ++ rest) =
      applyDirectives { method with resultEcho := resultEcho.or method.resultEcho } rest := by
  cases resultEcho with
  | none => rfl
  | some echo =>
      have echoPlain := plain echo rfl
      rw [Option.toList_some, List.map_singleton, List.singleton_append, applyDirectives,
        directive_renderEcho]
      dsimp only
      rw [isNegative_renderEcho echoPlain, readVariable_renderEcho echoPlain]
      rfl

theorem applyDirectives_example (method : Method) {exampleLines : Option (List Text)}
    (paragraphs : ∀ lines, exampleLines = some lines → Paragraphs lines) :
    applyDirectives method (exampleBlock exampleLines) =
      { method with exampleLines := exampleLines.or method.exampleLines } := by
  cases exampleLines with
  | none => rfl
  | some lines =>
      have whole := paragraphs lines rfl
      have filled : lines.isEmpty = false := List.isEmpty_eq_false_iff.mpr whole.filled
      rw [exampleBlock, applyDirectives, directive_example_line]
      dsimp only
      rw [clean_paragraphs whole, filled]
      rfl

/-- No directive is taken for a part of the description. -/
theorem description_directiveLines {method : Method}
    (plain : ∀ argument ∈ method.arguments, PlainArgument argument) :
    description (directiveLines method) = [] := by
  have stops : ∀ {line : Text} (rest : List Text), directive line ≠ .prose →
      description (line :: rest) = [] := by
    intro line rest said
    rw [description, List.takeWhile_cons, if_neg (by simpa using said)]
  obtain ⟨name, desc, arguments, resultCode, resultEcho, exampleLines, line⟩ := method
  cases arguments with
  | cons argument arguments =>
      refine stops _ ?_
      rw [directive_renderArgument (plain argument (by simp))]
      simp
  | nil =>
      cases resultCode with
      | true => exact stops _ (by rw [directive_code_line]; simp)
      | false =>
          cases resultEcho with
          | some echo =>
              refine stops _ ?_
              rw [directive_renderEcho]
              simp
          | none =>
              cases exampleLines with
              | none => rfl
              | some lines => exact stops _ (by rw [directive_example_line]; simp)

theorem readMethod_methodComment {method : Method} (plain : PlainMethod method) :
    readMethod method.name (methodComment method) = some { method with line := 0 } := by
  have prose : ∀ line ∈ method.desc, directive line = .prose := fun line member =>
    directive_prose (plain.noArgument line member) (plain.noDirective line member)
  have described : description (methodComment method) = method.desc := by
    have all : ∀ line ∈ method.desc, (directive line == .prose) = true := by simpa using prose
    rw [description, methodComment, List.takeWhile_append_of_pos all, ← description,
      description_directiveLines plain.arguments, List.append_nil]
  have shown : isPrivate (methodComment method) = false := by
    obtain ⟨first, more, desc⟩ := List.exists_cons_of_ne_nil plain.desc.filled
    have firstShown := plain.shown
    rw [desc] at firstShown
    rw [methodComment, desc]
    exact firstShown
  rw [readMethod_eq_some_iff, described, clean_paragraphs plain.desc]
  refine ⟨⟨by simp [methodComment, plain.desc.filled], shown⟩, ?_⟩
  rw [methodComment, applyDirectives_prose _ _ prose, directiveLines,
    applyDirectives_arguments _ _ plain.arguments, applyDirectives_code, applyDirectives_echo _ _ plain.echo,
    applyDirectives_example _ plain.exampleLines]
  simp

/-! ### Comments as lines -/

theorem mem_appendToLast {suffix line : Text} {lines : List Text}
    (member : line ∈ appendToLast suffix lines) :
    ∃ written ∈ lines, line = written ∨ line = written ++ suffix := by
  fun_induction appendToLast suffix lines with
  | case1 => contradiction
  | case2 last => exact ⟨last, by simp, .inr (List.mem_singleton.mp member)⟩
  | case3 first rest further ih =>
      rcases List.mem_cons.mp member with here | later
      · exact ⟨first, by simp, .inl here⟩
      · obtain ⟨written, inside, same⟩ := ih later
        exact ⟨written, List.mem_cons_of_mem _ inside, same⟩

theorem variableComment_plain (spelled : Bool) {entity : Variable} (plain : PlainVariable entity) :
    ∀ line ∈ variableComment spelled entity, PlainComment line := by
  intro line member
  obtain ⟨written, inside, same⟩ := mem_appendToLast member
  have writtenPlain := (plain.desc.plain written inside).toPlainComment
  rcases same with rfl | rfl
  · exact writtenPlain
  · split
    · exact writtenPlain.append (typeMark_plain entity.type).1 (typeMark_plain entity.type).2
    · rw [List.append_nil]
      exact writtenPlain

theorem renderArgument_plain {argument : Argument} (plain : PlainArgument argument) :
    PlainComment (renderArgument argument) := by
  have fits := FitsLine.of_not_mem (argument_chars plain)
  obtain ⟨first, rest, index⟩ : ∃ first rest, argument.index = first :: rest := by
    rcases plain.index with ⟨wildcard, _, _⟩ | ⟨filled, _, _⟩
    · exact ⟨'*', [], wildcard⟩
    · exact List.exists_cons_of_ne_nil filled
  have start : first = '*' ∨ Text.isDigit first = true := by
    rcases plain.index with ⟨wildcard, _, _⟩ | ⟨_, digits, _⟩
    · rw [index] at wildcard
      exact .inl (List.cons.inj wildcard).1
    · exact .inr (digits first (by rw [index]; simp))
  rw [renderArgument, index, List.cons_append] at fits ⊢
  apply PlainComment.of_start fits <;> rintro rfl <;> simp at start <;> exact absurd start (by decide)

theorem renderEcho_plain {echo : Variable} (plain : PlainEcho echo) : PlainComment (renderEcho echo) := by
  have typed := typeMark_plain echo.type
  have heading : FitsLine "Echo: ".toList := by decide
  have said : FitsLine echo.desc.flatten := by
    rcases plain.desc with silent | ⟨text, said, echoed⟩
    · rw [silent]
      decide
    · rw [said, List.flatten_singleton]
      exact echoed.toFitsLine
  have announced : PlainComment ("Echo: ".toList ++ echo.desc.flatten) :=
    PlainComment.of_start (heading.append said) (by decide) (by decide)
  have written : renderEcho echo = "Echo: ".toList ++ echo.desc.flatten ++ typeMark echo.type :=
    (List.append_assoc _ _ _).symm
  rw [written]
  exact announced.append typed.1 typed.2

theorem methodComment_plain {method : Method} (plain : PlainMethod method) :
    ∀ line ∈ methodComment method, PlainComment line := by
  intro line member
  simp only [methodComment, directiveLines, List.mem_append] at member
  rcases member with described | argued | coded | echoed | shown
  · exact (plain.desc.plain line described).toPlainComment
  · obtain ⟨argument, inside, rfl⟩ := List.mem_map.mp argued
    exact renderArgument_plain (plain.arguments argument inside)
  · split at coded
    · rw [List.mem_singleton.mp coded]
      decide
    · contradiction
  · obtain ⟨echo, inside, rfl⟩ := List.mem_map.mp echoed
    exact renderEcho_plain (plain.echo echo (by simpa using inside))
  · cases lines : method.exampleLines with
    | none => simp [lines, exampleBlock] at shown
    | some exampleLines =>
        rw [lines, exampleBlock] at shown
        rcases List.mem_cons.mp shown with heading | inside
        · rw [heading]
          decide
        · exact ((plain.exampleLines exampleLines lines).plain line inside).toPlainComment

end ScriptDocs.Comment
