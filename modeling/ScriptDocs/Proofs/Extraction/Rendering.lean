import ScriptDocs.Proofs.Comment.Rendering
import ScriptDocs.Proofs.Extraction.Step

namespace ScriptDocs.Extraction

open Comment (Paragraphs PlainVariable PlainMethod variableComment methodComment)
open Script (FitsLine PlainComment commentLine)

/-!
Scripts written for a document, and their extraction. Each entity is a passage of its own: the comment,
the line that declares the entity, an empty line. Reading a passage takes a state in which nothing is
pending to another such state with one entity more, so a whole script gives its document back, each
entity with the number of the line that was written for it, and leaves nothing out.
-/

/-- What a script is to document; line numbers are given by writing it. -/
structure Outline where
  about : Option (List Text)
  assignments : List Variable
  methods : List Method

structure Outline.Plain (outline : Outline) : Prop where
  about : ∀ lines, outline.about = some lines → Paragraphs lines
  assignments : ∀ entity ∈ outline.assignments, PlainVariable entity
  methods : ∀ method ∈ outline.methods, PlainMethod method

/-! ### Writing a script -/

/-- What an outline leaves open: whether types are named that values give away, the first line, and
what follows the parentheses of a function. -/
structure Style where
  spelled : Bool
  firstLine : Text
  body : Text
  firstLineFits : FitsLine firstLine
  bodyFits : FitsLine body

def aboutPassage : Option (List Text) → List Text
  | none => []
  | some lines => lines.map commentLine ++ [[]]

def passage (comment : List Text) (code : Text) : List Text :=
  comment.map commentLine ++ [code, []]

def assignmentLine (entity : Variable) : Text :=
  entity.name ++ '=' :: entity.value

def methodLine (style : Style) (method : Method) : Text :=
  method.name ++ '(' :: ')' :: style.body

def assignmentPassage (style : Style) (entity : Variable) : List Text :=
  passage (variableComment style.spelled entity) (assignmentLine entity)

def methodPassage (style : Style) (method : Method) : List Text :=
  passage (methodComment method) (methodLine style method)

def renderLines (style : Style) (outline : Outline) : List Text :=
  style.firstLine :: (aboutPassage outline.about ++
    (outline.assignments.flatMap (assignmentPassage style) ++
      outline.methods.flatMap (methodPassage style)))

/-- The script of an outline. -/
def render (style : Style) (outline : Outline) : Text :=
  Script.textOf (renderLines style outline)

/-! ### The document of an outline -/

/-- The entities with the numbers of their lines, when `above` lines stand above them and each has its
own comment directly above. -/
def placeBelow {Entity : Type} (comment : Entity → List Text) (onLine : Entity → Nat → Entity) :
    Nat → List Entity → List Entity
  | _, [] => []
  | above, entity :: rest =>
      onLine entity (above + (comment entity).length + 1) ::
        placeBelow comment onLine (above + (comment entity).length + 2) rest

def placeAssignments (style : Style) : Nat → List Variable → List Variable :=
  placeBelow (variableComment style.spelled) (fun entity line => { entity with line })

def placeMethods : Nat → List Method → List Method :=
  placeBelow methodComment (fun method line => { method with line })

def isConstant (entity : Variable) : Bool :=
  entity.name.all Script.isConstantNameChar

def withAssignments (document : Document) (entities : List Variable) : Document :=
  { document with
    constants := document.constants ++ entities.filter isConstant
    vars := document.vars ++ entities.filter (fun entity => !isConstant entity) }

def withMethods (document : Document) (methods : List Method) : Document :=
  { document with methods := document.methods ++ methods }

def aboveAssignments (outline : Outline) : Nat :=
  1 + (aboutPassage outline.about).length

def aboveMethods (style : Style) (outline : Outline) : Nat :=
  aboveAssignments outline + (outline.assignments.flatMap (assignmentPassage style)).length

def documentOf (style : Style) (title : Text) (outline : Outline) : Document :=
  withMethods
    (withAssignments { title, about := outline.about }
      (placeAssignments style (aboveAssignments outline) outline.assignments))
    (placeMethods (aboveMethods style outline) outline.methods)

/-! ### Lines of a written script -/

/-- A line that is read as code whatever stands above it. -/
structure CodeLine (line : Text) : Prop extends FitsLine line where
  start : ∃ first rest, line = first :: rest ∧ first ≠ ' ' ∧ first ≠ Script.marker

theorem CodeLine.of_name {name rest : Text} (named : name ≠ []) (fits : FitsLine rest)
    (apart : ∀ c ∈ name, c ∉ ['\n', '\r', ' ', Script.marker]) : CodeLine (name ++ rest) := by
  have nameFits : FitsLine name := by
    refine FitsLine.of_not_mem (fun c member => ?_)
    have others := apart c member
    simp only [List.mem_cons, not_or] at others
    exact ⟨others.1, others.2.1⟩
  refine ⟨nameFits.append fits, ?_⟩
  obtain ⟨first, more, rfl⟩ := List.exists_cons_of_ne_nil named
  have others := apart first (by simp)
  simp only [List.mem_cons, not_or] at others
  exact ⟨first, more ++ rest, rfl, others.2.2.1, others.2.2.2.1⟩

theorem assignmentLine_codeLine {entity : Variable} (plain : PlainVariable entity) :
    CodeLine (assignmentLine entity) := by
  have equals : FitsLine ['='] := by decide
  refine CodeLine.of_name plain.named (equals.append plain.value) (fun c member other => ?_)
  have allowed := plain.nameChars c member
  simp only [List.mem_cons, List.not_mem_nil, or_false] at other
  rcases other with rfl | rfl | rfl | rfl <;> exact absurd allowed (by decide)

theorem methodLine_codeLine (style : Style) {method : Method} (plain : PlainMethod method) :
    CodeLine (methodLine style method) := by
  have parentheses : FitsLine ['(', ')'] := by decide
  refine CodeLine.of_name plain.named (parentheses.append style.bodyFits) (fun c member other => ?_)
  have allowed := plain.nameChars c member
  simp only [List.mem_cons, List.not_mem_nil, or_false] at other
  rcases other with rfl | rfl | rfl | rfl <;> exact absurd allowed (by decide)

theorem commentLines_fitLine {comments : List Text} (plain : ∀ text ∈ comments, PlainComment text) :
    ∀ line ∈ comments.map commentLine, FitsLine line := by
  intro line member
  obtain ⟨text, inside, rfl⟩ := List.mem_map.mp member
  exact Script.commentLine_fitsLine (plain text inside).toFitsLine

theorem passage_fitsLine {comment : List Text} {code : Text}
    (plain : ∀ text ∈ comment, PlainComment text) (fits : FitsLine code) :
    ∀ line ∈ passage comment code, FitsLine line := by
  intro line member
  rcases List.mem_append.mp member with commented | below
  · exact commentLines_fitLine plain line commented
  · rcases List.mem_cons.mp below with rfl | last
    · exact fits
    · rw [List.mem_singleton.mp last]
      decide

theorem renderLines_fitsLine (style : Style) {outline : Outline} (plain : outline.Plain) :
    ∀ line ∈ renderLines style outline, FitsLine line := by
  intro line member
  simp only [renderLines, List.mem_cons, List.mem_append, List.mem_flatMap] at member
  rcases member with first | about | ⟨entity, inside, assigned⟩ | ⟨method, inside, defined⟩
  · rw [first]
    exact style.firstLineFits
  · cases lines : outline.about with
    | none => simp [lines, aboutPassage] at about
    | some paragraphs =>
        rw [lines, aboutPassage] at about
        rcases List.mem_append.mp about with commented | last
        · exact commentLines_fitLine (plain.about paragraphs lines).comments line commented
        · rw [List.mem_singleton.mp last]
          decide
  · have entityPlain := plain.assignments entity inside
    exact passage_fitsLine (Comment.variableComment_plain style.spelled entityPlain)
      (assignmentLine_codeLine entityPlain).toFitsLine line assigned
  · have methodPlain := plain.methods method inside
    exact passage_fitsLine (Comment.methodComment_plain methodPlain)
      (methodLine_codeLine style methodPlain).toFitsLine line defined

theorem passage_length (comment : List Text) (code : Text) :
    (passage comment code).length = comment.length + 2 := by
  simp [passage]

/-! ### Reading a written script -/

/-- The state after `n` lines of which none was left out, with no value open. -/
def State.reading (n : Nat) (buffer : Option (List Text)) (methodsSeen aboutClaimed : Bool)
    (document : Document) : State where
  lineNumber := n
  pending := { buffer, methodsSeen, aboutClaimed }
  document := document

section

variable {n : Nat} {buffer : Option (List Text)} {seen claimed : Bool} {document : Document}

theorem step_commentLine (past : n ≠ 0) {text : Text} (plain : PlainComment text) :
    (State.reading n buffer seen claimed document).step (commentLine text) =
      State.reading (n + 1) (some (buffer.getD [] ++ [text])) seen claimed document := by
  have noIndent : Text.trimLeft ' ' (commentLine text) = commentLine text := rfl
  rw [State.step_scan rfl past, noIndent, State.scanLine, Script.lineKind_commentLine plain]
  rfl

/-- Comments add to an open block, in order. -/
theorem foldl_commentLines (past : n ≠ 0) (block : List Text) {comments : List Text}
    (plain : ∀ text ∈ comments, PlainComment text) :
    (comments.map commentLine).foldl State.step (State.reading n (some block) seen claimed document) =
      State.reading (n + comments.length) (some (block ++ comments)) seen claimed document := by
  induction comments generalizing n block with
  | nil => rw [List.append_nil]; rfl
  | cons text rest ih =>
      rw [List.map_cons, List.foldl_cons, step_commentLine past (plain text (by simp)),
        ih (Nat.succ_ne_zero n) _ (fun later member => plain later (List.mem_cons_of_mem text member))]
      simp only [Option.getD_some, List.append_assoc, List.singleton_append, List.length_cons]
      rw [Nat.succ_add_eq_add_succ]

theorem foldl_block (past : n ≠ 0) {comments : List Text} (filled : comments ≠ [])
    (plain : ∀ text ∈ comments, PlainComment text) :
    (comments.map commentLine).foldl State.step (State.reading n none seen claimed document) =
      State.reading (n + comments.length) (some comments) seen claimed document := by
  obtain ⟨first, rest, rfl⟩ := List.exists_cons_of_ne_nil filled
  rw [List.map_cons, List.foldl_cons, step_commentLine past (plain first (by simp)),
    foldl_commentLines (Nat.succ_ne_zero n) _
      (fun later member => plain later (List.mem_cons_of_mem first member))]
  simp only [Option.getD_none, List.nil_append, List.singleton_append, List.length_cons]
  rw [Nat.succ_add_eq_add_succ]

theorem step_emptyLine (past : n ≠ 0) :
    (State.reading n none seen claimed document).step [] =
      State.reading (n + 1) none seen claimed document := by
  rw [State.step_scan rfl past]
  simp [State.scanLine, Script.lineKind, Text.trimLeft, State.blankLine, Comment.Pending.take,
    State.reading]

/-- The first block that an empty line closes is the about text. -/
theorem step_about (past : n ≠ 0) {lines : List Text} (paragraphs : Paragraphs lines)
    (nothing : document.isValid = false) :
    (State.reading n (some lines) seen false document).step [] =
      State.reading (n + 1) none seen true { document with about := some lines } := by
  have filled : lines.isEmpty = false := List.isEmpty_eq_false_iff.mpr paragraphs.filled
  have set : document.setAbout lines = { document with about := some lines } := by
    obtain ⟨first, rest, rfl⟩ := List.exists_cons_of_ne_nil paragraphs.filled
    rw [Document.setAbout, Comment.clean_paragraphs paragraphs]
  rw [State.step_scan rfl past]
  simp [State.scanLine, Script.lineKind, Text.trimLeft, State.blankLine, Comment.Pending.take,
    State.reading, nothing, filled, set]

theorem step_codeLine (past : n ≠ 0) {line : Text} (code : CodeLine line) :
    (State.reading n buffer seen claimed document).step line =
      (State.reading (n + 1) buffer seen claimed document).codeLine line := by
  obtain ⟨first, rest, rfl, noIndent, noMarker⟩ := code.start
  have stripped : Text.trimLeft ' ' (first :: rest) = first :: rest := by
    simp [Text.trimLeft, noIndent]
  rw [State.step_scan rfl past, stripped, State.scanLine, Script.lineKind_code noMarker]
  rfl

/-- A passage closes its own block, and what its code line declares is all that it adds. -/
theorem foldl_passage (past : n ≠ 0) {comment : List Text} {code : Text} (filled : comment ≠ [])
    (plain : ∀ text ∈ comment, PlainComment text) (starts : CodeLine code) {after : Bool}
    {added : Document}
    (coded : (State.reading (n + comment.length + 1) (some comment) seen claimed document).codeLine code =
      State.reading (n + comment.length + 1) none after true added) :
    (passage comment code).foldl State.step (State.reading n none seen claimed document) =
      State.reading (n + comment.length + 2) none after true added := by
  rw [passage, List.foldl_append, foldl_block past filled plain, List.foldl_cons, List.foldl_cons,
    step_codeLine (by omega) starts, coded, step_emptyLine (Nat.succ_ne_zero _)]
  rfl

theorem codeLine_assignmentLine (spelled : Bool) {entity : Variable} (plain : PlainVariable entity) :
    (State.reading n (some (variableComment spelled entity)) false claimed document).codeLine
        (assignmentLine entity) =
      State.reading n none false true (withAssignments document [{ entity with line := n }]) := by
  have read := Comment.readVariable_variableComment spelled plain
  have filled : (variableComment spelled entity).isEmpty = false := by
    rw [List.isEmpty_eq_false_iff]
    exact ((Comment.readVariable_eq_some_iff.mp read).1).1
  have described : entity.desc.isEmpty = false := List.isEmpty_eq_false_iff.mpr plain.desc.filled
  have assigned : Script.assignment? (assignmentLine entity) = some (entity.name, entity.value) :=
    Script.assignment?_eq_some_iff.mpr ⟨plain.named, plain.nameChars, plain.value.oneLine, .inl rfl⟩
  cases constant : isConstant entity with
  | true =>
      have declared := Script.classify_eq_constant_iff.mpr ⟨assigned, constant⟩
      have sort : isConstant { entity with line := n } = true := constant
      simp [State.codeLine, State.reading, Comment.Pending.take, filled, declared,
        State.declareVariable, read, plain.closed, State.addVariable, Document.addVariable, described,
        withAssignments, sort]
  | false =>
      have declared := Script.classify_eq_variable_iff.mpr ⟨assigned, constant⟩
      have sort : isConstant { entity with line := n } = false := constant
      simp [State.codeLine, State.reading, Comment.Pending.take, filled, declared,
        State.declareVariable, read, plain.closed, State.addVariable, Document.addVariable, described,
        withAssignments, sort]

theorem codeLine_methodLine (style : Style) {method : Method} (plain : PlainMethod method) :
    (State.reading n (some (methodComment method)) seen claimed document).codeLine
        (methodLine style method) =
      State.reading n none true true (withMethods document [{ method with line := n }]) := by
  have read := Comment.readMethod_methodComment plain
  have filled : (methodComment method).isEmpty = false := by
    rw [List.isEmpty_eq_false_iff]
    exact ((Comment.readMethod_eq_some_iff.mp read).1).1
  have described : method.desc.isEmpty = false := List.isEmpty_eq_false_iff.mpr plain.desc.filled
  have declared : Script.classify (methodLine style method) = .method method.name :=
    Script.classify_eq_method_iff.mpr
      (Script.methodName?_eq_some_iff.mpr ⟨plain.named, plain.nameChars, _, rfl⟩)
  simp [State.codeLine, State.reading, Comment.Pending.take, filled, declared, State.declareMethod,
    read, State.addMethod, Document.addMethod, described, withMethods]

theorem foldl_assignmentPassage (past : n ≠ 0) (style : Style) {entity : Variable}
    (plain : PlainVariable entity) :
    (assignmentPassage style entity).foldl State.step (State.reading n none false claimed document) =
      State.reading (n + (variableComment style.spelled entity).length + 2) none false true
        (withAssignments document
          [{ entity with line := n + (variableComment style.spelled entity).length + 1 }]) := by
  have read := Comment.readVariable_variableComment style.spelled plain
  exact foldl_passage past ((Comment.readVariable_eq_some_iff.mp read).1).1
    (Comment.variableComment_plain style.spelled plain) (assignmentLine_codeLine plain)
    (codeLine_assignmentLine style.spelled plain)

theorem foldl_methodPassage (past : n ≠ 0) (style : Style) {method : Method}
    (plain : PlainMethod method) :
    (methodPassage style method).foldl State.step (State.reading n none seen claimed document) =
      State.reading (n + (methodComment method).length + 2) none true true
        (withMethods document [{ method with line := n + (methodComment method).length + 1 }]) := by
  have read := Comment.readMethod_methodComment plain
  exact foldl_passage past ((Comment.readMethod_eq_some_iff.mp read).1).1
    (Comment.methodComment_plain plain) (methodLine_codeLine style plain) (codeLine_methodLine style plain)

/-- Passages one after the other add their entities one after the other. `before` says whether the
functions documented so far, if any, still let such passages count. -/
theorem foldl_passages {Entity : Type} (comment : Entity → List Text) (code : Entity → Text)
    (onLine : Entity → Nat → Entity) (before : Bool → Prop) {add : Document → List Entity → Document}
    (addNone : ∀ document, add document [] = document)
    (addMore : ∀ document entity rest, add document (entity :: rest) = add (add document [entity]) rest)
    {entities : List Entity}
    (reads : ∀ entity ∈ entities, ∀ n seen claimed document, n ≠ 0 → before seen →
      ∃ after, before after ∧
        (passage (comment entity) (code entity)).foldl State.step
            (State.reading n none seen claimed document) =
          State.reading (n + (comment entity).length + 2) none after true
            (add document [onLine entity (n + (comment entity).length + 1)]))
    (past : n ≠ 0) (start : before seen) :
    ∃ after claimedAfter, before after ∧
      (entities.flatMap (fun entity => passage (comment entity) (code entity))).foldl State.step
          (State.reading n none seen claimed document) =
        State.reading
          (n + (entities.flatMap (fun entity => passage (comment entity) (code entity))).length)
          none after claimedAfter (add document (placeBelow comment onLine n entities)) := by
  induction entities generalizing n seen claimed document with
  | nil => exact ⟨seen, claimed, start, by rw [placeBelow, addNone]; rfl⟩
  | cons entity rest ih =>
      -- nothing is pending after a passage, so the rest is read from a state of the same form
      obtain ⟨between, stillBefore, first⟩ := reads entity (by simp) n seen claimed document past start
      obtain ⟨after, claimedAfter, stillAfter, later⟩ :=
        ih (fun other member => reads other (List.mem_cons_of_mem entity member))
          (Nat.succ_ne_zero (n + (comment entity).length + 1)) stillBefore
      refine ⟨after, claimedAfter, stillAfter, ?_⟩
      rw [List.flatMap_cons, List.foldl_append, first, later, ← addMore, List.length_append, passage_length,
        ← Nat.add_assoc, ← Nat.add_assoc]
      rfl

end

theorem foldl_assignments {n : Nat} (past : n ≠ 0) (style : Style) (claimed : Bool) (document : Document)
    {entities : List Variable} (plain : ∀ entity ∈ entities, PlainVariable entity) :
    ∃ claimedAfter, (entities.flatMap (assignmentPassage style)).foldl State.step
        (State.reading n none false claimed document) =
      State.reading (n + (entities.flatMap (assignmentPassage style)).length) none false claimedAfter
        (withAssignments document (placeAssignments style n entities)) := by
  have addMore : ∀ document entity rest, withAssignments document (entity :: rest) =
      withAssignments (withAssignments document [entity]) rest := by
    intro document entity rest
    cases sort : isConstant entity <;> simp [withAssignments, sort]
  obtain ⟨after, claimedAfter, rfl, folded⟩ :=
    foldl_passages (variableComment style.spelled) assignmentLine (fun entity line => { entity with line })
      (· = false) (by simp [withAssignments]) addMore
      (by
        rintro entity member n seen claimed document past rfl
        exact ⟨false, rfl, foldl_assignmentPassage past style (plain entity member)⟩)
      past rfl
  exact ⟨claimedAfter, folded⟩

theorem foldl_methods {n : Nat} (past : n ≠ 0) (style : Style) (seen claimed : Bool)
    (document : Document) {methods : List Method} (plain : ∀ method ∈ methods, PlainMethod method) :
    ∃ after claimedAfter, (methods.flatMap (methodPassage style)).foldl State.step
        (State.reading n none seen claimed document) =
      State.reading (n + (methods.flatMap (methodPassage style)).length) none after claimedAfter
        (withMethods document (placeMethods n methods)) := by
  have addMore : ∀ document method rest, withMethods document (method :: rest) =
      withMethods (withMethods document [method]) rest := by
    intro document method rest
    simp [withMethods]
  obtain ⟨after, claimedAfter, _, folded⟩ :=
    foldl_passages methodComment (methodLine style) (fun method line => { method with line })
      (fun _ => True) (by simp [withMethods]) addMore
      (by
        intro method member n seen claimed document past anywhere
        exact ⟨true, anywhere, foldl_methodPassage past style (plain method member)⟩)
      past trivial
  exact ⟨after, claimedAfter, folded⟩

theorem foldl_about {n : Nat} (past : n ≠ 0) {about : Option (List Text)}
    (paragraphs : ∀ lines, about = some lines → Paragraphs lines) (title : Text) :
    ∃ claimed, (aboutPassage about).foldl State.step (State.reading n none false false { title }) =
      State.reading (n + (aboutPassage about).length) none false claimed { title, about } := by
  cases about with
  | none => exact ⟨false, rfl⟩
  | some lines =>
      have whole := paragraphs lines rfl
      refine ⟨true, ?_⟩
      rw [aboutPassage, List.foldl_append, foldl_block past whole.filled whole.comments,
        List.foldl_cons, List.foldl_nil, step_about (by omega) whole rfl, List.length_append,
        List.length_map]
      rfl

theorem run_renderLines (style : Style) (title : Text) {outline : Outline} (plain : outline.Plain) :
    ∃ n seen claimed, run title (renderLines style outline) =
      State.reading n none seen claimed (documentOf style title outline) := by
  have begun : (State.start title).step style.firstLine = State.reading 1 none false false { title } := rfl
  obtain ⟨claimed, about⟩ := foldl_about Nat.one_ne_zero plain.about title
  have belowAbout : aboveAssignments outline ≠ 0 := by
    rw [aboveAssignments]
    omega
  have belowAssignments : aboveMethods style outline ≠ 0 := by
    rw [aboveMethods]
    omega
  obtain ⟨claimedLater, assigned⟩ := foldl_assignments belowAbout style claimed
    { title, about := outline.about } plain.assignments
  obtain ⟨seen, claimedLast, defined⟩ := foldl_methods belowAssignments style false claimedLater
    (withAssignments { title, about := outline.about }
      (placeAssignments style (aboveAssignments outline) outline.assignments)) plain.methods
  refine ⟨aboveMethods style outline + (outline.methods.flatMap (methodPassage style)).length, seen,
    claimedLast, ?_⟩
  rw [run, renderLines, List.foldl_cons, begun, List.foldl_append, List.foldl_append, about,
    ← aboveAssignments, assigned, ← aboveMethods, defined]
  rfl

/-- Extraction undoes writing, and has nothing to note. -/
theorem extract_render (style : Style) (title : Text) {outline : Outline} (plain : outline.Plain) :
    extract title (render style outline) = (documentOf style title outline, []) := by
  have lines := Script.linesOf_textOf (renderLines_fitsLine style plain)
  obtain ⟨n, seen, claimed, final⟩ := run_renderLines style title plain
  rw [extract, render, lines, final]
  rfl

/-- An outline with a type against its value, an empty value, and every directive. -/
def greetingOutline : Outline where
  about := some ["Greets people.".toList, [], "Politely.".toList]
  assignments :=
    [{ name := "LIMIT".toList, desc := ["How often.".toList], type := .string, value := "3".toList },
      { name := "last[0]".toList, desc := [[], "Who came last.".toList] }]
  methods :=
    [{ name := "greet.all".toList
       desc := ["Greets all.".toList]
       arguments :=
         [{ index := "1".toList, desc := "the greeting".toList, type := .string, isOptional := true },
           { index := "*".toList, desc := "whom".toList, isWildcard := true }]
       resultCode := true
       resultEcho := some { name := [], desc := ["the last name".toList], type := .string }
       exampleLines := some ["greet.all hi".toList, [], "  Ann Bob".toList] }]

theorem greetingOutline_plain : greetingOutline.Plain where
  about := by
    intro lines found
    cases found
    decide
  assignments := by
    have nameChars : ∀ entity ∈ greetingOutline.assignments,
        entity.name.all Script.isAssignedNameChar = true := by decide
    intro entity member
    refine ⟨?_, List.all_eq_true.mp (nameChars entity member), ?_, ?_, ?_, ?_, ?_, ?_⟩ <;>
      revert entity <;> decide
  methods := by
    intro method member
    have same := List.mem_singleton.mp member
    subst same
    refine ⟨by decide, List.all_eq_true.mp (by decide), by decide, by decide, by decide, by decide,
      ?_, ?_, ?_⟩
    · intro argument listed
      rcases List.mem_cons.mp listed with first | last
      · subst first
        exact ⟨.inr ⟨by decide, List.all_eq_true.mp (by decide), rfl⟩,
          ["the".toList, "greeting".toList], by decide, by decide⟩
      · have same := List.mem_singleton.mp last
        subst same
        exact ⟨.inl (by decide), ["whom".toList], by decide, by decide⟩
    · intro echo found
      cases found
      exact ⟨rfl, rfl, rfl, .inr ⟨"the last name".toList, rfl, by decide, by decide, by decide,
        by decide, by decide⟩⟩
    · intro lines found
      cases found
      decide

def bashStyle : Style where
  spelled := false
  firstLine := "#!/bin/bash".toList
  body := " { :; }".toList
  firstLineFits := by decide
  bodyFits := by decide

theorem extract_render_greeting :
    greetingOutline.Plain ∧ extract [] (render bashStyle greetingOutline) =
      (documentOf bashStyle [] greetingOutline, []) :=
  ⟨greetingOutline_plain, extract_render bashStyle [] greetingOutline_plain⟩

end ScriptDocs.Extraction
