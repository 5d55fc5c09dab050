import ScriptDocs.Proofs.Extraction.Tracking
import ScriptDocs.Proofs.Script

namespace ScriptDocs.Extraction

open Text (OneLine)

/-!
Every document that extraction gives is well-formed: its entities stand in order on distinct lines of
the script, assignments before functions, each under the name that its line declares; descriptions,
examples and the about text are never empty, and no text runs over the end of a line.
-/

variable {lines : List Text}

theorem lineAt_oneLine (one : ∀ line ∈ lines, OneLine line) (n : Nat) : OneLine (lineAt lines n) := by
  cases n with
  | zero => exact Text.oneLine_nil
  | succ n =>
      cases found : lines[n]? with
      | some line =>
          rw [lineAt_of_getElem? found]
          exact one line (List.mem_of_getElem? found)
      | none => simp [lineAt, found, Text.oneLine_nil]

theorem strippedAt_oneLine (one : ∀ line ∈ lines, OneLine line) (n : Nat) :
    OneLine (strippedAt lines n) :=
  (lineAt_oneLine one n).of_subset (Text.trimLeft_subset ' ' _)

theorem commentsAbove_oneLine (one : ∀ line ∈ lines, OneLine line) (n : Nat) :
    ∀ comment ∈ commentsAbove lines n, OneLine comment := by
  induction n with
  | zero => simp [commentsAbove]
  | succ n ih =>
      have extended : ∀ comment ∈ commentsAbove lines n ++ [strippedAt lines n], OneLine comment := by
        intro comment member
        rcases List.mem_append.mp member with above | last
        · exact ih comment above
        · exact List.mem_singleton.mp last ▸ strippedAt_oneLine one n
      rw [commentsAbove]
      split
      · simp
      · split
        · exact extended
        · exact extended
        · exact extended
        · simp
        · simp

theorem attachedBlock_oneLine (one : ∀ line ∈ lines, OneLine line) (n : Nat) :
    ∀ text ∈ attachedBlock lines n, OneLine text := by
  intro text member
  obtain ⟨comment, inside, same⟩ := List.mem_map.mp member
  have above := (List.mem_filter.mp ((List.dropWhile_sublist _).subset inside)).1
  have commentOne := commentsAbove_oneLine one n comment above
  rw [← same]
  split
  · exact commentOne.of_subset (List.drop_sublist _ _).subset
  · exact Text.oneLine_nil

theorem splitAfter_subset (terminator : Text) (rest : List Text) :
    (Script.splitAfter terminator rest).1 ⊆ rest := by
  induction rest with
  | nil => simp [Script.splitAfter]
  | cons line rest ih =>
      unfold Script.splitAfter
      split
      · simp
      · exact List.cons_subset_cons line ih

theorem continuationAfter_oneLine (one : ∀ line ∈ lines, OneLine line) (n : Nat) :
    OneLine (continuationAfter lines n) :=
  OneLine.flatten (fun line member =>
    one line ((List.drop_sublist _ _).subset (splitAfter_subset _ _ member)))

theorem AssignedAt.oneLine {n : Nat} {entity : Variable} (one : ∀ line ∈ lines, OneLine line)
    (assigned : AssignedAt lines n entity) : ∀ text ∈ Comment.variableTexts entity, OneLine text := by
  have strippedOne := strippedAt_oneLine one n
  obtain ⟨_, all, valueOne, decomposed⟩ :=
    Script.assignment?_eq_some_iff.mp (Script.assignment_of_classify _ assigned.assigns)
  intro text member
  rcases List.mem_cons.mp member with name | rest
  · rw [name, assigned.name]
    refine strippedOne.of_subset (fun c inside => ?_)
    rcases decomposed with plain | ended
    · exact plain ▸ List.mem_append_left _ inside
    · exact ended ▸ List.mem_append_left _ inside
  · rcases List.mem_cons.mp rest with value | described
    · rw [value, assigned.value]
      refine OneLine.append valueOne ?_
      split
      · exact continuationAfter_oneLine one n
      · exact Text.oneLine_nil
    · rw [assigned.desc] at described
      exact Comment.extractType_oneLine (attachedBlock_oneLine one n) text described

/-- A value that goes on over more lines starts with a quote, so its type is never left open. -/
theorem AssignedAt.untyped {n : Nat} {entity : Variable} (assigned : AssignedAt lines n entity)
    (unknown : entity.type = .unknown) : entity.value = [] := by
  have guessed : Comment.guessType (declarationAt lines n).value = .unknown := by
    rw [assigned.type] at unknown
    split at unknown
    · exact unknown
    · contradiction
  rw [assigned.value, Comment.guessType_eq_unknown_iff.mp guessed]
  rfl

theorem AssignedAt.constant {n : Nat} {entity : Variable} (assigned : AssignedAt lines n entity)
    (kind : (declarationAt lines n).kind = .constant) :
    ∃ value, declarationAt lines n = .constant entity.name value := by
  rw [assigned.name]
  cases declared : declarationAt lines n <;>
    simp_all [Script.Declaration.kind, Script.Declaration.name]

theorem AssignedAt.var {n : Nat} {entity : Variable} (assigned : AssignedAt lines n entity)
    (kind : (declarationAt lines n).kind = .variable) :
    ∃ value, declarationAt lines n = .variable entity.name value := by
  rw [assigned.name]
  cases declared : declarationAt lines n <;>
    simp_all [Script.Declaration.kind, Script.Declaration.name]

/-- The parts of an extracted function are those of its comment, which only gained a line number. -/
theorem method_parts {n : Nat} {method : Method} (one : ∀ line ∈ lines, OneLine line)
    (found : entityAt lines n = some (.method method)) :
    Comment.DirectivesWellFormed method ∧ method.desc ≠ [] ∧ ∀ text ∈ method.desc, OneLine text := by
  obtain ⟨read, _, readFrom, described, same⟩ := entityAt_method found
  obtain ⟨parts, descOne⟩ := Comment.readMethod_wellFormed (attachedBlock_oneLine one n) readFrom
  rw [same]
  exact ⟨⟨parts.arguments, parts.echo, parts.exampleFilled, parts.exampleOneLine⟩, described, descOne⟩

theorem method_oneLine {n : Nat} {method : Method} (one : ∀ line ∈ lines, OneLine line)
    (found : entityAt lines n = some (.method method)) :
    ∀ text ∈ Comment.methodTexts method, OneLine text := by
  obtain ⟨_, declared, _⟩ := entityAt_method found
  obtain ⟨parts, _, descOne⟩ := method_parts one found
  obtain ⟨_, _, rest, whole⟩ := Script.methodName?_eq_some_iff.mp
    (Script.classify_eq_method_iff.mp declared)
  have nameOne : OneLine method.name := (strippedAt_oneLine one n).of_subset
    (by rw [whole]; exact List.subset_append_left _ _)
  intro text member
  simp only [Comment.methodTexts, List.cons_append, List.mem_cons, List.mem_append,
    List.mem_flatMap, Option.mem_toList] at member
  rcases member with name | ((described | ⟨argument, inside, ofArgument⟩) | ⟨echo, inside, ofEcho⟩) | shown
  · exact name ▸ nameOne
  · exact descOne text described
  · exact (parts.arguments argument inside).oneLine text ofArgument
  · have facts := parts.echo echo inside
    simp only [Comment.variableTexts, facts.name, facts.value, List.mem_cons] at ofEcho
    rcases ofEcho with empty | empty | described
    · exact empty ▸ Text.oneLine_nil
    · exact empty ▸ Text.oneLine_nil
    · exact facts.oneLine text described
  · exact parts.exampleOneLine text shown

/-- All texts of a document but its title. -/
def documentTexts (document : Document) : List Text :=
  document.about.getD [] ++ document.constants.flatMap Comment.variableTexts ++
    document.vars.flatMap Comment.variableTexts ++ document.methods.flatMap Comment.methodTexts

structure WellFormed (lines : List Text) (document : Document) : Prop where
  within : ∀ n ∈ entityLines document, 2 ≤ n ∧ n ≤ lines.length
  constantsInOrder : (document.constants.map Variable.line).Pairwise (· < ·)
  varsInOrder : (document.vars.map Variable.line).Pairwise (· < ·)
  methodsInOrder : (document.methods.map Method.line).Pairwise (· < ·)
  distinct : (entityLines document).Nodup
  beforeMethods : ∀ entity ∈ document.constants ++ document.vars, ∀ method ∈ document.methods,
    entity.line < method.line
  constantsDeclared : ∀ entity ∈ document.constants,
    ∃ value, declarationAt lines entity.line = .constant entity.name value
  varsDeclared : ∀ entity ∈ document.vars,
    ∃ value, declarationAt lines entity.line = .variable entity.name value
  methodsDeclared : ∀ method ∈ document.methods, declarationAt lines method.line = .method method.name
  constantNames : ∀ entity ∈ document.constants,
    entity.name ≠ [] ∧ ∀ c ∈ entity.name, Script.isConstantNameChar c = true
  varNames : ∀ entity ∈ document.vars,
    (∀ c ∈ entity.name, Script.isAssignedNameChar c = true) ∧
      ¬ (entity.name ≠ [] ∧ ∀ c ∈ entity.name, Script.isConstantNameChar c = true)
  methodNames : ∀ method ∈ document.methods,
    method.name ≠ [] ∧ ∀ c ∈ method.name, Script.isMethodNameChar c = true
  oneLine : ∀ text ∈ documentTexts document, '\n' ∉ text
  untyped : ∀ entity ∈ document.constants ++ document.vars, entity.type = .unknown → entity.value = []
  arguments : ∀ method ∈ document.methods, ∀ argument ∈ method.arguments,
    argument.index = ['*'] ∧ argument.isWildcard = true ∧ argument.type = .unknown ∨
      argument.index ≠ [] ∧ (∀ c ∈ argument.index, Text.isDigit c = true) ∧ argument.isWildcard = false
  echoes : ∀ method ∈ document.methods, ∀ echo, method.resultEcho = some echo →
    echo.name = [] ∧ echo.value = [] ∧ echo.line = 0
  variablesDescribed : ∀ entity ∈ document.constants ++ document.vars, entity.desc ≠ []
  methodsDescribed : ∀ method ∈ document.methods, method.desc ≠ []
  aboutFilled : document.about ≠ some []
  examplesFilled : ∀ method ∈ document.methods, method.exampleLines ≠ some []

/-- Each entity of a run is what the rule reads off the line that the entity names. -/
theorem run_entities (title : Text) (lines : List Text) :
    (∀ entity ∈ (run title lines).document.constants,
      entityAt lines entity.line = some (.constant entity)) ∧
    (∀ entity ∈ (run title lines).document.vars, entityAt lines entity.line = some (.var entity)) ∧
    ∀ method ∈ (run title lines).document.methods,
      entityAt lines method.line = some (.method method) := by
  have holds := run_holds title lines
  have placed : ∀ entity ∈ entitiesUpTo lines lines.length, entityAt lines entity.line = some entity := by
    intro entity member
    obtain ⟨n, _, found⟩ := List.mem_filterMap.mp member
    rw [entityAt_line found]
    exact found
  refine ⟨fun entity member => ?_, fun entity member => ?_, fun method member => ?_⟩
  · rw [holds.constants] at member
    obtain ⟨whole, inside, sort⟩ := List.mem_filterMap.mp member
    cases whole <;> simp [Entity.constant?] at sort
    exact sort ▸ placed _ inside
  · rw [holds.vars] at member
    obtain ⟨whole, inside, sort⟩ := List.mem_filterMap.mp member
    cases whole <;> simp [Entity.var?] at sort
    exact sort ▸ placed _ inside
  · rw [holds.methods] at member
    obtain ⟨whole, inside, sort⟩ := List.mem_filterMap.mp member
    cases whole <;> simp [Entity.method?] at sort
    exact sort ▸ placed _ inside

theorem entitiesUpTo_inOrder (lines : List Text) (n : Nat) :
    (entitiesUpTo lines n).Pairwise (fun left right => left.line < right.line) := by
  refine List.pairwise_filterMap.mpr (List.pairwise_lt_range.imp ?_)
  intro left right before leftEntity leftFound rightEntity rightFound
  rw [entityAt_line leftFound, entityAt_line rightFound]
  exact before

theorem Holds.inOrder {document : Document} {n : Nat} (holds : Holds document (entitiesUpTo lines n)) :
    (document.constants.map Variable.line).Pairwise (· < ·) ∧
      (document.vars.map Variable.line).Pairwise (· < ·) ∧
      (document.methods.map Method.line).Pairwise (· < ·) := by
  have order := entitiesUpTo_inOrder lines n
  rw [holds.constants, holds.vars, holds.methods]
  simp only [List.pairwise_map, List.pairwise_filterMap]
  refine ⟨order.imp ?_, order.imp ?_, order.imp ?_⟩
  · intro left right before entity sort other otherSort
    cases left <;> cases right <;> simp_all [Entity.constant?, Entity.line]
  · intro left right before entity sort other otherSort
    cases left <;> cases right <;> simp_all [Entity.var?, Entity.line]
  · intro left right before entity sort other otherSort
    cases left <;> cases right <;> simp_all [Entity.method?, Entity.line]

/-- No line gives two entities, since each line has one entity by the rule. -/
theorem run_distinct (title : Text) (lines : List Text) :
    (entityLines (run title lines).document).Nodup := by
  obtain ⟨constants, vars, methods⟩ := run_entities title lines
  obtain ⟨constantsOrder, varsOrder, methodsOrder⟩ := (run_holds title lines).inOrder
  have differ : ∀ {left right : Entity} {n m : Nat}, entityAt lines n = some left →
      entityAt lines m = some right → left ≠ right → n ≠ m := by
    intro left right n m leftFound rightFound different same
    rw [same, rightFound] at leftFound
    exact different (Option.some.inj leftFound).symm
  unfold entityLines
  rw [List.nodup_append, List.nodup_append]
  refine ⟨⟨constantsOrder.imp Nat.ne_of_lt, varsOrder.imp Nat.ne_of_lt, ?_⟩,
    methodsOrder.imp Nat.ne_of_lt, ?_⟩
  · intro n inConstants m inVars
    obtain ⟨left, leftMember, rfl⟩ := List.mem_map.mp inConstants
    obtain ⟨right, rightMember, rfl⟩ := List.mem_map.mp inVars
    exact differ (constants left leftMember) (vars right rightMember) (by simp)
  · intro n inAssigned m inMethods
    obtain ⟨right, rightMember, rfl⟩ := List.mem_map.mp inMethods
    rcases List.mem_append.mp inAssigned with inConstants | inVars
    · obtain ⟨left, leftMember, rfl⟩ := List.mem_map.mp inConstants
      exact differ (constants left leftMember) (methods right rightMember) (by simp)
    · obtain ⟨left, leftMember, rfl⟩ := List.mem_map.mp inVars
      exact differ (vars left leftMember) (methods right rightMember) (by simp)

/-- An assignment below a documented function is never extracted, so those that are stand above. -/
theorem assigned_before_method {n m : Nat} {entity : Variable} {assigned : Entity} {method : Method}
    (found : entityAt lines n = some assigned) (facts : AssignedAt lines n entity)
    (methodFound : entityAt lines m = some (.method method)) : n < m := by
  have extracted := extracted_of_entityAt found
  have methodExtracted := extracted_of_entityAt methodFound
  obtain ⟨_, declared, _⟩ := entityAt_method methodFound
  have isMethod : (declarationAt lines m).kind = .method := by rw [declared]; rfl
  rcases Nat.lt_trichotomy n m with before | same | after
  · exact before
  · have assigns := facts.assigns
    rw [same, declared] at assigns
    simp [Script.Declaration.isAssignment] at assigns
  · exact absurd isMethod
      (extracted.beforeMethods facts.assigns m after methodExtracted.documented)

theorem run_oneLine {title : Text} (one : ∀ line ∈ lines, OneLine line) :
    ∀ text ∈ documentTexts (run title lines).document, OneLine text := by
  obtain ⟨constants, vars, methods⟩ := run_entities title lines
  intro text member
  simp only [documentTexts, List.mem_append, List.mem_flatMap] at member
  rcases member with ((about | ⟨entity, inside, ofEntity⟩) | ⟨entity, inside, ofEntity⟩) |
    ⟨method, inside, ofMethod⟩
  · cases found : (run title lines).document.about with
    | none => simp [found] at about
    | some lines =>
        obtain ⟨_, n, same⟩ := run_about found
        rw [found, Option.getD_some, same] at about
        exact Comment.clean_oneLine (attachedBlock_oneLine one n) text about
  · exact (entityAt_constant (constants entity inside)).2.oneLine one text ofEntity
  · exact (entityAt_var (vars entity inside)).2.oneLine one text ofEntity
  · exact method_oneLine one (methods method inside) text ofMethod

theorem extract_wellFormed (title text : Text) :
    WellFormed (Script.linesOf text) (extract title text).1 := by
  have one : ∀ line ∈ Script.linesOf text, OneLine line := fun _ => Script.linesOf_oneLine
  obtain ⟨constants, vars, methods⟩ := run_entities title (Script.linesOf text)
  obtain ⟨constantsOrder, varsOrder, methodsOrder⟩ := (run_holds title (Script.linesOf text)).inOrder
  -- constants and variables share all facts that do not depend on their names
  have assigned : ∀ entity ∈ (run title (Script.linesOf text)).document.constants ++
      (run title (Script.linesOf text)).document.vars,
      AssignedAt (Script.linesOf text) entity.line entity ∧
        ∃ whole, entityAt (Script.linesOf text) entity.line = some whole := by
    intro entity member
    rcases List.mem_append.mp member with inConstants | inVars
    · exact ⟨(entityAt_constant (constants entity inConstants)).2, _, constants entity inConstants⟩
    · exact ⟨(entityAt_var (vars entity inVars)).2, _, vars entity inVars⟩
  constructor
  case within =>
    intro n member
    have extracted := extracted_of_mem_entityLines (run_holds title (Script.linesOf text)) member
    exact ⟨extracted.pastFirst, extracted.within⟩
  case constantsInOrder => exact constantsOrder
  case varsInOrder => exact varsOrder
  case methodsInOrder => exact methodsOrder
  case distinct => exact run_distinct title (Script.linesOf text)
  case beforeMethods =>
    intro entity member method methodMember
    obtain ⟨facts, whole, found⟩ := assigned entity member
    exact assigned_before_method found facts (methods method methodMember)
  case constantsDeclared =>
    intro entity member
    obtain ⟨kind, facts⟩ := entityAt_constant (constants entity member)
    exact facts.constant kind
  case varsDeclared =>
    intro entity member
    obtain ⟨kind, facts⟩ := entityAt_var (vars entity member)
    exact facts.var kind
  case methodsDeclared =>
    intro method member
    obtain ⟨_, declared, _⟩ := entityAt_method (methods method member)
    exact declared
  case constantNames =>
    intro entity member
    obtain ⟨kind, facts⟩ := entityAt_constant (constants entity member)
    obtain ⟨value, declared⟩ := facts.constant kind
    obtain ⟨whole, constant⟩ := Script.classify_eq_constant_iff.mp declared
    exact ⟨(Script.assignment?_eq_some_iff.mp whole).1, List.all_eq_true.mp constant⟩
  case varNames =>
    intro entity member
    obtain ⟨kind, facts⟩ := entityAt_var (vars entity member)
    obtain ⟨value, declared⟩ := facts.var kind
    obtain ⟨whole, other⟩ := Script.classify_eq_variable_iff.mp declared
    refine ⟨(Script.assignment?_eq_some_iff.mp whole).2.1, fun constant => ?_⟩
    rw [List.all_eq_true.mpr constant.2] at other
    contradiction
  case methodNames =>
    intro method member
    obtain ⟨_, declared, _⟩ := entityAt_method (methods method member)
    obtain ⟨filled, all, _⟩ := Script.methodName?_eq_some_iff.mp (Script.classify_eq_method_iff.mp declared)
    exact ⟨filled, all⟩
  case oneLine => exact run_oneLine one
  case untyped => exact fun entity member => (assigned entity member).1.untyped
  case arguments =>
    intro method member argument inside
    exact ((method_parts one (methods method member)).1.arguments argument inside).index
  case echoes =>
    intro method member echo found
    have facts := (method_parts one (methods method member)).1.echo echo found
    exact ⟨facts.name, facts.value, facts.line⟩
  case variablesDescribed => exact fun entity member => (assigned entity member).1.described
  case methodsDescribed => exact fun method member => (method_parts one (methods method member)).2.1
  case aboutFilled =>
    intro empty
    exact (run_about empty).1 rfl
  case examplesFilled =>
    exact fun method member => (method_parts one (methods method member)).1.exampleFilled

end ScriptDocs.Extraction
