import ScriptDocs.Proofs.Script

namespace ScriptDocs.Script

open Text (OneLine)

/-!
The grammar of declarations. A line has the form of a function, the form of an assignment or neither;
it never has both, and it comes apart into the parts of its form in one way only. Classifying a line
tells its form and its parts, so that it makes no difference which form is looked for first.
-/

def Alphanumeric (c : Char) : Prop :=
  'A' ≤ c ∧ c ≤ 'Z' ∨ 'a' ≤ c ∧ c ≤ 'z' ∨ '0' ≤ c ∧ c ≤ '9'

/-- A name, a pair of parentheses, and anything after them. -/
structure MethodForm (line name rest : Text) : Prop where
  named : name ≠ []
  chars : ∀ c ∈ name, Alphanumeric c ∨ c = '.' ∨ c = '_'
  parts : line = name ++ '(' :: ')' :: rest

/-- A name, an equals sign, a value within its line, and the line feed that may come last. -/
structure AssignmentForm (line name value ending : Text) : Prop where
  named : name ≠ []
  chars : ∀ c ∈ name, Alphanumeric c ∨ c = '_' ∨ c = '.' ∨ c = '[' ∨ c = ']'
  oneLine : OneLine value
  ended : ending = [] ∨ ending = ['\n']
  parts : line = name ++ '=' :: (value ++ ending)

def ConstantName (name : Text) : Prop :=
  ∀ c ∈ name, 'A' ≤ c ∧ c ≤ 'Z' ∨ '0' ≤ c ∧ c ≤ '9' ∨ c = '_'

/-- What the classification of a line says in full. -/
def Declares (line : Text) (kind : EntityKind) (name value : Text) : Prop :=
  (classify line).kind = kind ∧ (classify line).name = name ∧ (classify line).value = value

/-- Classification with the two forms looked for the other way round. -/
def classifyAssignmentFirst (line : Text) : Declaration :=
  match assignment? line with
  | some (name, value) =>
      if name.all isConstantNameChar then .constant name value else .variable name value
  | none =>
      match methodName? line with
      | some name => .method name
      | none => .unrecognized

/-! ### Characters of names -/

theorem isDigit_iff {c : Char} : Text.isDigit c = true ↔ '0' ≤ c ∧ c ≤ '9' := by
  simp only [Text.isDigit, Bool.and_eq_true, decide_eq_true_eq]
  exact Iff.rfl

theorem alphanumeric_iff {c : Char} : Alphanumeric c ↔ isLetter c = true ∨ Text.isDigit c = true := by
  rw [isDigit_iff]
  simp only [Alphanumeric, isLetter, Bool.or_eq_true, Bool.and_eq_true, decide_eq_true_eq]
  constructor
  · intro allowed
    rcases allowed with capital | small | digit
    · exact .inl (.inr capital)
    · exact .inl (.inl small)
    · exact .inr digit
  · intro allowed
    rcases allowed with (small | capital) | digit
    · exact .inr (.inl small)
    · exact .inl capital
    · exact .inr (.inr digit)

theorem isMethodNameChar_iff {c : Char} :
    isMethodNameChar c = true ↔ Alphanumeric c ∨ c = '.' ∨ c = '_' := by
  simp only [isMethodNameChar, alphanumeric_iff, Bool.or_eq_true, beq_iff_eq, or_assoc]

theorem isAssignedNameChar_iff {c : Char} :
    isAssignedNameChar c = true ↔ Alphanumeric c ∨ c = '_' ∨ c = '.' ∨ c = '[' ∨ c = ']' := by
  simp only [isAssignedNameChar, alphanumeric_iff, Bool.or_eq_true, beq_iff_eq, or_assoc]

theorem constantName_iff {name : Text} : ConstantName name ↔ name.all isConstantNameChar = true := by
  simp only [ConstantName, List.all_eq_true, isConstantNameChar, Bool.or_eq_true, Bool.and_eq_true,
    decide_eq_true_eq, isDigit_iff, beq_iff_eq, or_assoc]

/-! ### Forms -/

section Forms

variable {line name rest value ending : Text}

theorem methodForm_iff : (∃ rest, MethodForm line name rest) ↔ methodName? line = some name := by
  rw [methodName?_eq_some_iff]
  constructor
  · intro ⟨rest, form⟩
    exact ⟨form.named, fun c member => isMethodNameChar_iff.mpr (form.chars c member), rest, form.parts⟩
  · intro ⟨named, chars, rest, parts⟩
    exact ⟨rest, named, fun c member => isMethodNameChar_iff.mp (chars c member), parts⟩

theorem assignmentForm_iff :
    (∃ ending, AssignmentForm line name value ending) ↔ assignment? line = some (name, value) := by
  rw [assignment?_eq_some_iff]
  constructor
  · intro ⟨ending, form⟩
    refine ⟨form.named, fun c member => isAssignedNameChar_iff.mpr (form.chars c member), form.oneLine, ?_⟩
    have parts := form.parts
    rcases form.ended with none | newline
    · exact .inl (by rw [parts, none, List.append_nil])
    · exact .inr (by rw [parts, newline])
  · intro ⟨named, chars, oneLine, parts⟩
    have allowed := fun c member => isAssignedNameChar_iff.mp (chars c member)
    rcases parts with whole | whole
    · exact ⟨[], named, allowed, oneLine, .inl rfl, by rw [whole, List.append_nil]⟩
    · exact ⟨['\n'], named, allowed, oneLine, .inr rfl, whole⟩

theorem MethodForm.unique {other after : Text} (form : MethodForm line name rest)
    (again : MethodForm line other after) : name = other ∧ rest = after := by
  have found := methodForm_iff.mp ⟨rest, form⟩
  rw [methodForm_iff.mp ⟨after, again⟩] at found
  have sameName : name = other := (Option.some.inj found).symm
  have parts := form.parts.symm.trans again.parts
  rw [sameName] at parts
  exact ⟨sameName, (List.cons.inj (List.cons.inj (List.append_cancel_left parts)).2).2⟩

theorem AssignmentForm.unique {other valueOther endingOther : Text}
    (form : AssignmentForm line name value ending)
    (again : AssignmentForm line other valueOther endingOther) :
    name = other ∧ value = valueOther ∧ ending = endingOther := by
  have found := assignmentForm_iff.mp ⟨ending, form⟩
  rw [assignmentForm_iff.mp ⟨endingOther, again⟩] at found
  obtain ⟨sameName, sameValue⟩ := Prod.mk.inj (Option.some.inj found.symm)
  have parts := form.parts.symm.trans again.parts
  rw [sameName, sameValue] at parts
  exact ⟨sameName, sameValue, List.append_cancel_left (List.cons.inj (List.append_cancel_left parts)).2⟩

theorem MethodForm.not_assignment {other : Text} (form : MethodForm line name rest) :
    ¬ AssignmentForm line other value ending := by
  intro assigned
  have declared := classify_eq_method_iff.mpr (methodForm_iff.mp ⟨rest, form⟩)
  rw [classify_of_assignment (assignmentForm_iff.mp ⟨ending, assigned⟩)] at declared
  split at declared <;> contradiction

end Forms

/-! ### Classification -/

section Classification

variable {line name value : Text}

theorem classify_eq_unrecognized_iff :
    classify line = .unrecognized ↔ methodName? line = none ∧ assignment? line = none := by
  unfold classify
  cases methodName? line with
  | some found => simp
  | none =>
      cases assignment? line with
      | none => simp
      | some found =>
          simp only [reduceCtorEq, and_false, iff_false]
          split <;> simp

theorem declares_method_iff :
    Declares line .method name value ↔ value = [] ∧ ∃ rest, MethodForm line name rest := by
  rw [methodForm_iff, ← classify_eq_method_iff, Declares]
  cases classify line <;> simp [Declaration.kind, Declaration.name, Declaration.value, eq_comm, and_comm]

theorem assigns_iff :
    (classify line).isAssignment = true ∧ (classify line).name = name ∧ (classify line).value = value ↔
      ∃ ending, AssignmentForm line name value ending := by
  rw [assignmentForm_iff]
  constructor
  · intro ⟨assigns, sameName, sameValue⟩
    rw [assignment_of_classify line assigns, sameName, sameValue]
  · intro assigned
    rw [classify_of_assignment assigned]
    split <;> exact ⟨rfl, rfl, rfl⟩

theorem declares_constant_iff :
    Declares line .constant name value ↔
      (∃ ending, AssignmentForm line name value ending) ∧ ConstantName name := by
  rw [assignmentForm_iff, constantName_iff, ← classify_eq_constant_iff, Declares]
  cases classify line <;> simp [Declaration.kind, Declaration.name, Declaration.value]

theorem declares_variable_iff :
    Declares line .variable name value ↔
      (∃ ending, AssignmentForm line name value ending) ∧ ¬ ConstantName name := by
  rw [assignmentForm_iff, constantName_iff, Bool.not_eq_true, ← classify_eq_variable_iff, Declares]
  cases classify line <;> simp [Declaration.kind, Declaration.name, Declaration.value]

theorem declares_unknown_iff :
    Declares line .unknown name value ↔
      name = [] ∧ value = [] ∧ (∀ name rest, ¬ MethodForm line name rest) ∧
        ∀ name value ending, ¬ AssignmentForm line name value ending := by
  have noMethod : (∀ name rest, ¬ MethodForm line name rest) ↔ methodName? line = none := by
    rw [Option.eq_none_iff_forall_ne_some]
    exact forall_congr' fun name => by rw [ne_eq, ← methodForm_iff, not_exists]
  have noAssignment : (∀ name value ending, ¬ AssignmentForm line name value ending) ↔
      assignment? line = none := by
    rw [Option.eq_none_iff_forall_ne_some, Prod.forall]
    exact forall_congr' fun name => forall_congr' fun value => by
      rw [ne_eq, ← assignmentForm_iff, not_exists]
  rw [noMethod, noAssignment, ← classify_eq_unrecognized_iff, Declares]
  cases classify line <;>
    simp [Declaration.kind, Declaration.name, Declaration.value, eq_comm]

theorem classify_eq_classifyAssignmentFirst (line : Text) :
    classify line = classifyAssignmentFirst line := by
  unfold classifyAssignmentFirst
  cases assigned : assignment? line with
  | some found => exact classify_of_assignment assigned
  | none =>
      cases called : methodName? line with
      | some name => simp only [classify, called]
      | none => simp only [classify, called, assigned]

end Classification

/-- The classification of a line is its form: that of a function or of an assignment, each with its parts,
or none. No line has both forms, and none has one form in two ways. -/
theorem classify_forms (line : Text) :
    (∀ name value, Declares line .method name value ↔ value = [] ∧ ∃ rest, MethodForm line name rest) ∧
    (∀ name value, (classify line).isAssignment = true ∧ (classify line).name = name ∧
      (classify line).value = value ↔ ∃ ending, AssignmentForm line name value ending) ∧
    (∀ name value, Declares line .constant name value ↔
      (∃ ending, AssignmentForm line name value ending) ∧ ConstantName name) ∧
    (∀ name value, Declares line .variable name value ↔
      (∃ ending, AssignmentForm line name value ending) ∧ ¬ ConstantName name) ∧
    (∀ name value, Declares line .unknown name value ↔
      name = [] ∧ value = [] ∧ (∀ name rest, ¬ MethodForm line name rest) ∧
        ∀ name value ending, ¬ AssignmentForm line name value ending) ∧
    (∀ name rest other after, MethodForm line name rest → MethodForm line other after →
      name = other ∧ rest = after) ∧
    (∀ name value ending other valueOther endingOther, AssignmentForm line name value ending →
      AssignmentForm line other valueOther endingOther →
      name = other ∧ value = valueOther ∧ ending = endingOther) ∧
    (∀ name rest other value ending,
      ¬ (MethodForm line name rest ∧ AssignmentForm line other value ending)) ∧
    classify line = classifyAssignmentFirst line := by
  exact ⟨fun name value => declares_method_iff, fun name value => assigns_iff,
    fun name value => declares_constant_iff, fun name value => declares_variable_iff,
    fun name value => declares_unknown_iff, fun name rest other after => MethodForm.unique,
    fun name value ending other valueOther endingOther => AssignmentForm.unique,
    fun name rest other value ending both => both.1.not_assignment both.2,
    classify_eq_classifyAssignmentFirst line⟩

/-- A function with an assignment behind it, and an assignment with a call in its value. -/
def hookLines : Text × Text :=
  ("run.me() x=1".toList, "hooks[0].x=run()\n".toList)

theorem classify_forms_hooks :
    MethodForm hookLines.1 "run.me".toList " x=1".toList ∧
    AssignmentForm hookLines.2 "hooks[0].x".toList "run()".toList ['\n'] ∧
    Declares hookLines.1 .method "run.me".toList [] ∧
    (∀ name rest, MethodForm hookLines.1 name rest → name = "run.me".toList ∧ rest = " x=1".toList) ∧
    Declares hookLines.2 .variable "hooks[0].x".toList "run()".toList ∧
    (∀ name value ending, AssignmentForm hookLines.2 name value ending →
      name = "hooks[0].x".toList ∧ value = "run()".toList ∧ ending = ['\n']) := by
  have calledChars : "run.me".toList.all isMethodNameChar = true := by decide
  have assignedChars : "hooks[0].x".toList.all isAssignedNameChar = true := by decide
  have called : MethodForm hookLines.1 "run.me".toList " x=1".toList :=
    ⟨by decide, fun c member => isMethodNameChar_iff.mp (List.all_eq_true.mp calledChars c member), rfl⟩
  have assigned : AssignmentForm hookLines.2 "hooks[0].x".toList "run()".toList ['\n'] :=
    ⟨by decide, fun c member => isAssignedNameChar_iff.mp (List.all_eq_true.mp assignedChars c member),
      by decide, .inr rfl, rfl⟩
  have variableName : ¬ ConstantName "hooks[0].x".toList := by
    rw [constantName_iff]
    decide
  obtain ⟨method, _, _, _, _, methodOnce, _⟩ := classify_forms hookLines.1
  obtain ⟨_, _, _, declared, _, _, assignedOnce, _⟩ := classify_forms hookLines.2
  refine ⟨called, assigned, (method _ _).mpr ⟨rfl, _, called⟩, ?_,
    (declared _ _).mpr ⟨⟨_, assigned⟩, variableName⟩, ?_⟩
  · intro name rest form
    exact methodOnce _ _ _ _ form called
  · intro name value ending form
    exact assignedOnce _ _ _ _ _ _ form assigned

end ScriptDocs.Script
