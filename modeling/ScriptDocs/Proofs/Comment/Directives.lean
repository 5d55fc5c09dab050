import ScriptDocs.Proofs.Comment.Rendering

namespace ScriptDocs.Comment

/-!
What a function's comment says, field by field. Reading goes over the lines once, adding, overwriting
and stopping; what comes of it is a closed form in which no field depends on another. The description
ends at the first line that is no prose, the example starts at the first line that says so, and between
the two a line of prose says nothing.
-/

def endsDescription (line : Text) : Bool :=
  (readArgument line).isSome ||
    ["Code:", "Echo:", "Example:"].any (fun name => name.toList.isPrefixOf line)

def startsExample (line : Text) : Bool :=
  "Example:".toList.isPrefixOf line

def descriptionEnd (lines : List Text) : Nat :=
  lines.findIdx endsDescription

def exampleStart (lines : List Text) : Nat :=
  lines.findIdx startsExample

/-- The value of a directive that does not decline. -/
def acceptedValue? (name line : Text) : Option Text :=
  (directiveValue? name line).filter (fun value => !isNegative value)

def filled? (lines : List Text) : Option (List Text) :=
  if lines.isEmpty then none else some lines

/-- The function that a comment documents, each field read off the lines by itself. -/
def methodOf (name : Text) (lines : List Text) : Method :=
  let before := lines.take (exampleStart lines)
  { name
    desc := clean (lines.take (descriptionEnd lines))
    arguments := before.filterMap readArgument
    resultCode := before.any (fun line => (acceptedValue? "Code:".toList line).isSome)
    resultEcho := (before.filterMap (acceptedValue? "Echo:".toList)).getLast?.bind
      (fun value => readVariable [] [] [value])
    exampleLines := filled? (clean (lines.drop (exampleStart lines + 1))) }

/-! ### One line -/

theorem argument_unnamed {line : Text} {argument : Argument} (read : readArgument line = some argument) :
    ∀ name ∈ ["Code:", "Echo:", "Example:"], name.toList.isPrefixOf line = false := by
  obtain ⟨index, rest, rfl, indexed, _⟩ := readArgument_eq_some_iff.mp read
  have start : ∃ first more, index ++ ':' :: rest = first :: more ∧
      (first = '*' ∨ Text.isDigit first = true) := by
    rcases indexed with rfl | ⟨filled, digits⟩
    · exact ⟨'*', ':' :: rest, rfl, .inl rfl⟩
    · obtain ⟨first, more, rfl⟩ := List.exists_cons_of_ne_nil filled
      exact ⟨first, more ++ ':' :: rest, rfl, .inr (digits first (by simp))⟩
  obtain ⟨first, more, whole, sort⟩ := start
  have capital : first ≠ 'C' ∧ first ≠ 'E' := by
    rcases sort with rfl | digit
    · decide
    · constructor <;> rintro rfl <;> exact absurd digit (by decide)
  rw [whole]
  simp [List.isPrefixOf, Ne.symm capital.1, Ne.symm capital.2]

/-- No name of a directive is the start of another, so a line starts with at most one. -/
theorem named_once {name : String} (other : String) {line : Text}
    (known : name ∈ ["Code:", "Echo:", "Example:"]) (otherKnown : other ∈ ["Code:", "Echo:", "Example:"])
    (differ : name ≠ other) (named : name.toList.isPrefixOf line = true) :
    other.toList.isPrefixOf line = false := by
  have apart : ∀ left ∈ ["Code:", "Echo:", "Example:"], ∀ right ∈ ["Code:", "Echo:", "Example:"],
      left ≠ right → left.toList.isPrefixOf right.toList = false := by decide
  rw [← Bool.not_eq_true]
  intro otherNamed
  rw [List.isPrefixOf_iff_prefix] at named otherNamed
  rcases List.prefix_or_prefix_of_prefix named otherNamed with within | within
  · exact absurd (List.isPrefixOf_iff_prefix.mpr within)
      (by rw [apart name known other otherKnown differ]; decide)
  · exact absurd (List.isPrefixOf_iff_prefix.mpr within)
      (by rw [apart other otherKnown name known (Ne.symm differ)]; decide)

namespace Directive

def argument? : Directive → Option Argument
  | .argument found => some found
  | _ => none

def code? : Directive → Option Text
  | .code found => some found
  | _ => none

def echo? : Directive → Option Text
  | .echo found => some found
  | _ => none

end Directive

theorem directiveValue?_unnamed {name line : Text} (unnamed : name.isPrefixOf line = false) :
    directiveValue? name line = none := by
  simp [directiveValue?, Text.after?, unnamed]

theorem directiveValue?_named {name line : Text} (named : name.isPrefixOf line = true) :
    directiveValue? name line = some ((line.drop name.length).drop 1) := by
  simp [directiveValue?, Text.after?, named]

/-- What a line says is found by asking for each directive alone. -/
theorem directive_reads (line : Text) :
    readArgument line = (directive line).argument? ∧
      directiveValue? "Code:".toList line = (directive line).code? ∧
      directiveValue? "Echo:".toList line = (directive line).echo? ∧
      startsExample line = (directive line == .startExample) ∧
      endsDescription line = (directive line != .prose) := by
  unfold startsExample endsDescription directive
  simp only [List.any_cons, List.any_nil, Bool.or_false]
  cases read : readArgument line with
  | some argument =>
      have unnamed := argument_unnamed read
      have code := unnamed "Code:" (by simp)
      have echo := unnamed "Echo:" (by simp)
      have starts := unnamed "Example:" (by simp)
      rw [directiveValue?_unnamed code, directiveValue?_unnamed echo, starts]
      exact ⟨rfl, rfl, rfl, rfl, rfl⟩
  | none =>
      cases code : "Code:".toList.isPrefixOf line with
      | true =>
          have echo := named_once "Echo:" (by decide) (by decide) (by decide) code
          have starts := named_once "Example:" (by decide) (by decide) (by decide) code
          rw [directiveValue?_named code, directiveValue?_unnamed echo, starts]
          exact ⟨rfl, rfl, rfl, rfl, rfl⟩
      | false =>
          rw [directiveValue?_unnamed code]
          cases echo : "Echo:".toList.isPrefixOf line with
          | true =>
              have starts := named_once "Example:" (by decide) (by decide) (by decide) echo
              rw [directiveValue?_named echo, starts]
              exact ⟨rfl, rfl, rfl, rfl, rfl⟩
          | false =>
              rw [directiveValue?_unnamed echo]
              cases "Example:".toList.isPrefixOf line with
              | true => exact ⟨rfl, rfl, rfl, rfl, rfl⟩
              | false => exact ⟨rfl, rfl, rfl, rfl, rfl⟩

def adding (method : Method) (line : Text) : Method :=
  { method with
    arguments := method.arguments ++ (readArgument line).toList
    resultCode := method.resultCode || (acceptedValue? "Code:".toList line).isSome
    resultEcho := (acceptedValue? "Echo:".toList line).elim method.resultEcho
      (fun value => readVariable [] [] [value]) }

theorem applyDirectives_cons {line : Text} (more : startsExample line = false) (method : Method)
    (rest : List Text) :
    applyDirectives method (line :: rest) = applyDirectives (adding method line) rest := by
  obtain ⟨argument, code, echo, starts, _⟩ := directive_reads line
  rw [starts] at more
  rw [applyDirectives, adding, acceptedValue?, acceptedValue?, argument, code, echo]
  cases said : directive line with
  | argument found =>
      simp [Directive.argument?, Directive.code?, Directive.echo?]
  | code value =>
      cases declined : isNegative value with
      | true => simp [declined, Directive.argument?, Directive.code?, Directive.echo?]
      | false => simp [declined, Directive.argument?, Directive.code?, Directive.echo?]
  | echo value =>
      cases declined : isNegative value with
      | true => simp [declined, Option.filter, Directive.argument?, Directive.code?, Directive.echo?]
      | false => simp [declined, Option.filter, Directive.argument?, Directive.code?, Directive.echo?]
  | startExample => simp [said] at more
  | prose => simp [Directive.argument?, Directive.code?, Directive.echo?]

/-! ### All lines -/

theorem applyDirectives_append {before : List Text}
    (more : ∀ line ∈ before, startsExample line = false) (method : Method) (after : List Text) :
    applyDirectives method (before ++ after) = applyDirectives (before.foldl adding method) after := by
  induction before generalizing method with
  | nil => rfl
  | cons line rest ih =>
      rw [List.cons_append, applyDirectives_cons (more line (by simp)), List.foldl_cons]
      exact ih (fun later member => more later (List.mem_cons_of_mem line member)) (adding method line)

/-- Arguments add up, one accepted code is enough, and the last accepted echo counts. -/
theorem foldl_adding (method : Method) (lines : List Text) :
    lines.foldl adding method =
      { method with
        arguments := method.arguments ++ lines.filterMap readArgument
        resultCode := method.resultCode ||
          lines.any (fun line => (acceptedValue? "Code:".toList line).isSome)
        resultEcho := (lines.filterMap (acceptedValue? "Echo:".toList)).getLast?.elim method.resultEcho
          (fun value => readVariable [] [] [value]) } := by
  induction lines generalizing method with
  | nil => simp
  | cons line rest ih =>
      rw [List.foldl_cons, ih, adding]
      have arguments : (readArgument line).toList ++ rest.filterMap readArgument =
          (line :: rest).filterMap readArgument := by
        cases read : readArgument line <;> simp [read]
      have echoed : (rest.filterMap (acceptedValue? "Echo:".toList)).getLast?.elim
            ((acceptedValue? "Echo:".toList line).elim method.resultEcho
              (fun value => readVariable [] [] [value])) (fun value => readVariable [] [] [value]) =
          ((line :: rest).filterMap (acceptedValue? "Echo:".toList)).getLast?.elim method.resultEcho
            (fun value => readVariable [] [] [value]) := by
        cases accepted : acceptedValue? "Echo:".toList line with
        | none =>
            rw [List.filterMap_cons, accepted]
            rfl
        | some value =>
            rw [List.filterMap_cons, accepted, List.getLast?_cons]
            cases (rest.filterMap (acceptedValue? "Echo:".toList)).getLast? <;> rfl
      simp only [List.append_assoc, arguments, Bool.or_assoc, echoed, List.any_cons]

theorem applyDirectives_startsExample {line : Text} (starts : startsExample line = true)
    (method : Method) (rest : List Text) :
    applyDirectives method (line :: rest) = { method with exampleLines := filled? (clean rest) } := by
  have said : directive line = .startExample := by
    rw [(directive_reads line).2.2.2.1] at starts
    exact beq_iff_eq.mp starts
  rw [applyDirectives, said]
  rfl

theorem description_eq_take (lines : List Text) :
    description lines = lines.take (descriptionEnd lines) := by
  have sameEnd : (fun line => !(directive line == .prose)) = endsDescription :=
    funext (fun line => (directive_reads line).2.2.2.2.symm)
  rw [description, List.takeWhile_eq_take_findIdx_not, sameEnd, descriptionEnd]

/-- Reading the lines one after the other gives each field by itself. -/
theorem applyDirectives_eq_methodOf (name : Text) (lines : List Text) :
    applyDirectives { name, desc := clean (description lines) } lines = methodOf name lines := by
  have split : lines = lines.take (exampleStart lines) ++ lines.drop (exampleStart lines) :=
    (List.take_append_drop _ _).symm
  have before : ∀ line ∈ lines.take (exampleStart lines), startsExample line = false :=
    fun line member => List.false_of_mem_take_findIdx member
  have read := applyDirectives_append before { name, desc := clean (description lines) }
    (lines.drop (exampleStart lines))
  rw [← split] at read
  have echoed : ∀ value? : Option Text,
      value?.elim none (fun value => readVariable [] [] [value]) =
        value?.bind (fun value => readVariable [] [] [value]) := by
    intro value?
    cases value? <;> rfl
  rw [read, foldl_adding, methodOf, description_eq_take]
  simp only [echoed, List.nil_append, Bool.false_or]
  by_cases within : exampleStart lines < lines.length
  · have starts : startsExample lines[exampleStart lines] = true := List.findIdx_getElem
    rw [List.drop_eq_getElem_cons within, applyDirectives_startsExample starts]
  · have past : lines.length ≤ exampleStart lines := Nat.le_of_not_lt within
    rw [List.drop_eq_nil_of_le past, List.drop_eq_nil_of_le (Nat.le_succ_of_le past)]
    rfl

/-- Between the description and the example, a line that says nothing can come and go. -/
theorem readMethod_prose (name : Text) {before middle : List Text} (after : List Text)
    (directed : ∃ line ∈ before, endsDescription line = true)
    (more : ∀ line ∈ before, startsExample line = false)
    (prose : ∀ line ∈ middle, endsDescription line = false) :
    readMethod name (before ++ middle ++ after) = readMethod name (before ++ after) := by
  obtain ⟨first, rest, rfl⟩ : ∃ first rest, before = first :: rest := by
    obtain ⟨line, member, _⟩ := directed
    exact List.exists_cons_of_ne_nil (List.ne_nil_of_mem member)
  have nothing : ∀ line ∈ middle, directive line = .prose := by
    intro line member
    have said := prose line member
    rw [(directive_reads line).2.2.2.2] at said
    simpa using said
  have sameEnd : ∀ lines, descriptionEnd (first :: rest ++ lines) = descriptionEnd (first :: rest) := by
    intro lines
    rw [descriptionEnd, List.findIdx_append, if_pos (List.findIdx_lt_length.mpr directed), descriptionEnd]
  have within : descriptionEnd (first :: rest) ≤ (first :: rest).length := List.findIdx_le_length
  have sameDescription : ∀ lines, description (first :: rest ++ lines) = description (first :: rest) := by
    intro lines
    rw [description_eq_take, sameEnd, List.take_append_of_le_length within, description_eq_take]
  have sameRead : ∀ method, applyDirectives method (first :: rest ++ (middle ++ after)) =
      applyDirectives method (first :: rest ++ after) := by
    intro method
    rw [applyDirectives_append more, applyDirectives_prose _ after nothing, ← applyDirectives_append more]
  rw [List.append_assoc, readMethod, readMethod, sameDescription, sameDescription, sameRead]
  rfl

/-- What a shown comment says about a function, field by field; behind the first directive and before
the example, lines of prose may be put in or taken out. -/
theorem readMethod_fieldwise (name : Text) {lines : List Text} (filled : lines ≠ [])
    (shown : isPrivate lines = false) :
    readMethod name lines = some (methodOf name lines) ∧
    ∀ before middle after : List Text,
      (∃ line ∈ before, endsDescription line = true) → (∀ line ∈ before, startsExample line = false) →
      (∀ line ∈ middle, endsDescription line = false) →
      readMethod name (before ++ middle ++ after) = readMethod name (before ++ after) :=
  ⟨readMethod_eq_some_iff.mpr ⟨⟨filled, shown⟩, (applyDirectives_eq_methodOf name lines).symm⟩,
    fun _ _ after directed more prose => readMethod_prose name after directed more prose⟩

/-- The comment of a function that echoes twice, then declines, and mentions directives in its
example. -/
def packComment : List Text :=
  ["Packs files".toList, "2: Level (Number) [Optional]".toList, "Echo: Size (Number)".toList,
    "with care".toList, "Code: Yes".toList, "Echo: Path of the archive".toList, "*: Files".toList,
    "Code: none".toList, "Echo: No".toList, "Example:".toList, "Echo: pack a b".toList, [],
    "Example: more ".toList]

theorem readMethod_fieldwise_pack :
    packComment ≠ [] ∧ isPrivate packComment = false ∧
    readMethod "pack".toList packComment = some (methodOf "pack".toList packComment) ∧
    methodOf "pack".toList packComment =
      { name := "pack".toList
        desc := ["Packs files".toList]
        arguments :=
          [{ index := "2".toList, desc := "Level".toList, type := .number, isOptional := true },
            { index := "*".toList, desc := "Files".toList, isWildcard := true }]
        resultCode := true
        resultEcho := some { name := [], desc := ["Path of the archive".toList] }
        exampleLines := some ["Echo: pack a b".toList, [], "Example: more".toList] } ∧
    readMethod "pack".toList (packComment.take 3 ++ packComment.drop 4) =
      readMethod "pack".toList packComment := by
  have filled : packComment ≠ [] := by decide
  have shown : isPrivate packComment = false := by decide
  obtain ⟨fields, prose⟩ := readMethod_fieldwise "pack".toList filled shown
  refine ⟨filled, shown, fields, by decide +kernel, ?_⟩
  exact (prose (packComment.take 3) ["with care".toList] (packComment.drop 4) (by decide +kernel)
    (by decide +kernel) (by decide +kernel)).symm

end ScriptDocs.Comment
