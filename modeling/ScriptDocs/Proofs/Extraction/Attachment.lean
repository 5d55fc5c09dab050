import ScriptDocs.Proofs.Comment
import ScriptDocs.Proofs.Extraction.Step

namespace ScriptDocs.Extraction

/-!
Which lines of a script become entities, said without a state. The rule looks at a line and at the
lines above it: the line declares something, the comments directly above it are a shown block, and no
value opened further up runs over it. Lines count from one, and the first line takes no part.
-/

/-- Line `n` of a script; empty where the script has no such line. -/
def lineAt (lines : List Text) : Nat → Text
  | 0 => []
  | n + 1 => lines.getD n []

/-- Line `n` without its leading spaces. -/
def strippedAt (lines : List Text) (n : Nat) : Text :=
  Text.trimLeft ' ' (lineAt lines n)

def kindAt (lines : List Text) (n : Nat) : Script.LineKind :=
  Script.lineKind (strippedAt lines n)

def declarationAt (lines : List Text) (n : Nat) : Script.Declaration :=
  Script.classify (strippedAt lines n)

def endsInQuote (line : Text) : Bool :=
  line.getLast? == some '"'

/-- The text of a run of comment lines: lint directives do not count, and lines of bare markers stand
for paragraph breaks once a comment has opened the block. -/
def blockText (comments : List Text) : List Text :=
  ((comments.filter (fun line => Script.lineKind line != .lintDirective)).dropWhile
    (fun line => Script.lineKind line == .bareMarker)).map
    (fun line => if Script.lineKind line == .comment then Script.commentText line else [])

mutual

/-- Whether a line above opens a value that is still open when line `n` is reached, so that line `n`
lies between the opening line and the first line after it that ends in a quote. -/
def swallowed (lines : List Text) (n : Nat) : Bool :=
  (List.finRange n).any fun opener =>
    opensValue lines opener &&
      (List.finRange n).all fun between => between ≤ opener || !endsInQuote (lineAt lines between)
termination_by (n, 0)
decreasing_by exact Prod.Lex.left _ _ opener.isLt

/-- The comment lines directly above line `n`, in the order of the script. Reading upwards stops at an
empty line, at code, at a swallowed line and at the first line. -/
def commentsAbove (lines : List Text) : Nat → List Text
  | 0 => []
  | n + 1 =>
      if n ≤ 1 || swallowed lines n then []
      else
        match kindAt lines n with
        | .comment | .bareMarker | .lintDirective => commentsAbove lines n ++ [strippedAt lines n]
        | .blank | .code => []
termination_by n => (n, 1)
decreasing_by all_goals exact Prod.Lex.left _ _ (Nat.lt_succ_self n)

/-- Whether line `n` is reached, declares something and has a shown block above it. -/
def documented (lines : List Text) (n : Nat) : Bool :=
  let block := blockText (commentsAbove lines n)
  !swallowed lines n && kindAt lines n == .code && declarationAt lines n != .unrecognized &&
    !block.isEmpty && !Comment.isPrivate block
termination_by (n, 2)
decreasing_by all_goals exact Prod.Lex.right _ (by decide)

/-- Whether a documented function stands above line `n`. -/
def afterMethods (lines : List Text) (n : Nat) : Bool :=
  (List.finRange n).any fun above =>
    documented lines above && (declarationAt lines above).kind == .method
termination_by (n, 0)
decreasing_by exact Prod.Lex.left _ _ above.isLt

/-- Whether line `n` is a documented assignment that leaves its value open. -/
def opensValue (lines : List Text) (n : Nat) : Bool :=
  documented lines n && !afterMethods lines n && (declarationAt lines n).isAssignment &&
    Comment.opensString (declarationAt lines n).value
termination_by (n, 3)
decreasing_by all_goals exact Prod.Lex.right _ (by decide)

end

/-- The comment block attached to line `n`. -/
def attachedBlock (lines : List Text) (n : Nat) : List Text :=
  blockText (commentsAbove lines n)

/-- What completes a value that line `n` leaves open. -/
def continuationAfter (lines : List Text) (n : Nat) : Text :=
  (Script.splitAfter ['"'] (lines.drop n)).1.flatten

/-- The entity that line `n` documents, described or not. -/
def candidateAt (lines : List Text) (n : Nat) : Option Entity :=
  let declared := declarationAt lines n
  let block := attachedBlock lines n
  if !documented lines n then none
  else if !declared.isAssignment then
    (Comment.readMethod declared.name block).map (fun method => .method { method with line := n })
  else if afterMethods lines n then none
  else
    (Comment.readVariable declared.name declared.value block).map (fun found =>
      .ofVariable declared.kind
        { found with
          line := n
          value := declared.value ++
            if Comment.opensString declared.value then continuationAfter lines n else [] })

/-- The entity that line `n` adds to the document. -/
def entityAt (lines : List Text) (n : Nat) : Option Entity :=
  (candidateAt lines n).filter (fun entity => !entity.desc.isEmpty)

/-- Whether a block leaves a description for what is declared below it. -/
def Describes (block : List Text) : Script.Declaration → Prop
  | .unrecognized => False
  | .method _ => Comment.clean (Comment.description block) ≠ []
  | .variable _ _ | .constant _ _ => (Comment.extractType block).1 ≠ []

/-- The rule of attachment: what makes line `n` an entity. Only an assignment must come before all
documented functions. -/
structure Extracted (lines : List Text) (n : Nat) : Prop where
  pastFirst : 2 ≤ n
  reached : swallowed lines n = false
  code : kindAt lines n = .code
  declares : declarationAt lines n ≠ .unrecognized
  commented : attachedBlock lines n ≠ []
  shown : Comment.isPrivate (attachedBlock lines n) = false
  described : Describes (attachedBlock lines n) (declarationAt lines n)
  beforeMethods : (declarationAt lines n).isAssignment = true →
    ∀ above < n, documented lines above = true → (declarationAt lines above).kind ≠ .method

/-- The entities that the lines up to line `n` add, in order. -/
def entitiesUpTo (lines : List Text) (n : Nat) : List Entity :=
  (List.range (n + 1)).filterMap (entityAt lines)

/-! ### The rule, line by line -/

theorem lineAt_of_getElem? {lines : List Text} {k : Nat} {line : Text}
    (found : lines[k]? = some line) : lineAt lines (k + 1) = line := by
  simp [lineAt, found]

theorem lineAt_beyond {lines : List Text} {n : Nat} (beyond : lines.length < n) :
    lineAt lines n = [] := by
  cases n with
  | zero => rfl
  | succ n =>
      have past : lines.length ≤ n := Nat.le_of_lt_succ beyond
      simp [lineAt, List.getElem?_eq_none past]

theorem swallowed_iff (lines : List Text) (n : Nat) :
    swallowed lines n = true ↔
      ∃ opener < n, opensValue lines opener = true ∧
        ∀ between, opener < between → between < n → endsInQuote (lineAt lines between) = false := by
  rw [swallowed]
  simp only [List.any_eq_true, List.mem_finRange, true_and, Bool.and_eq_true, List.all_eq_true,
    Bool.or_eq_true, decide_eq_true_eq, Bool.not_eq_true', forall_const]
  constructor
  · rintro ⟨opener, opens, quiet⟩
    refine ⟨opener, opener.isLt, opens, fun between after before => ?_⟩
    rcases quiet ⟨between, before⟩ with notAfter | unquoted
    · exact absurd (Fin.le_def.mp notAfter) (Nat.not_le.mpr after)
    · exact unquoted
  · rintro ⟨opener, before, opens, quiet⟩
    refine ⟨⟨opener, before⟩, opens, fun between => ?_⟩
    by_cases after : opener < between.val
    · exact .inr (quiet between after between.isLt)
    · exact .inl (Fin.le_def.mpr (Nat.not_lt.mp after))

theorem swallowed_zero (lines : List Text) : swallowed lines 0 = false := by
  simp [swallowed]

/-- A line is swallowed when the line above opens a value, or is swallowed and does not close it. -/
theorem swallowed_succ (lines : List Text) (n : Nat) :
    swallowed lines (n + 1) =
      (opensValue lines n || (swallowed lines n && !endsInQuote (lineAt lines n))) := by
  rw [Bool.eq_iff_iff, swallowed_iff]
  simp only [Bool.or_eq_true, Bool.and_eq_true, Bool.not_eq_true']
  constructor
  · rintro ⟨opener, before, opens, quiet⟩
    rcases Nat.lt_succ_iff_lt_or_eq.mp before with earlier | same
    · refine .inr ⟨(swallowed_iff lines n).mpr ⟨opener, earlier, opens, ?_⟩, ?_⟩
      · exact fun between after before => quiet between after (Nat.lt_succ_of_lt before)
      · exact quiet n earlier (Nat.lt_succ_self n)
    · subst same
      exact .inl opens
  · rintro (opens | ⟨above, unquoted⟩)
    · exact ⟨n, Nat.lt_succ_self n, opens, fun between after before => by omega⟩
    · obtain ⟨opener, before, opens, quiet⟩ := (swallowed_iff lines n).mp above
      refine ⟨opener, Nat.lt_succ_of_lt before, opens, fun between after below => ?_⟩
      rcases Nat.lt_succ_iff_lt_or_eq.mp below with earlier | same
      · exact quiet between after earlier
      · exact same ▸ unquoted

theorem afterMethods_iff (lines : List Text) (n : Nat) :
    afterMethods lines n = true ↔
      ∃ above < n, documented lines above = true ∧ (declarationAt lines above).kind = .method := by
  rw [afterMethods]
  simp only [List.any_eq_true, List.mem_finRange, true_and, Bool.and_eq_true, beq_iff_eq]
  exact ⟨fun ⟨above, holds⟩ => ⟨above, above.isLt, holds⟩,
    fun ⟨above, before, holds⟩ => ⟨⟨above, before⟩, holds⟩⟩

theorem afterMethods_succ (lines : List Text) (n : Nat) :
    afterMethods lines (n + 1) =
      (afterMethods lines n || (documented lines n && (declarationAt lines n).kind == .method)) := by
  rw [Bool.eq_iff_iff, afterMethods_iff]
  simp only [Bool.or_eq_true, Bool.and_eq_true, beq_iff_eq, afterMethods_iff]
  constructor
  · rintro ⟨above, before, holds⟩
    rcases Nat.lt_succ_iff_lt_or_eq.mp before with earlier | same
    · exact .inl ⟨above, earlier, holds⟩
    · exact .inr (same ▸ holds)
  · rintro (⟨above, before, holds⟩ | holds)
    · exact ⟨above, Nat.lt_succ_of_lt before, holds⟩
    · exact ⟨n, Nat.lt_succ_self n, holds⟩

theorem documented_iff (lines : List Text) (n : Nat) :
    documented lines n = true ↔
      swallowed lines n = false ∧ kindAt lines n = .code ∧ declarationAt lines n ≠ .unrecognized ∧
        attachedBlock lines n ≠ [] ∧ Comment.isPrivate (attachedBlock lines n) = false := by
  rw [documented]
  simp [attachedBlock, and_assoc]

/-- Why a reached code line documents nothing. -/
theorem undocumented_code {lines : List Text} {n : Nat} (reached : swallowed lines n = false)
    (code : kindAt lines n = .code) (undocumented : documented lines n = false) :
    attachedBlock lines n = [] ∨ Comment.isPrivate (attachedBlock lines n) = true ∨
      declarationAt lines n = .unrecognized := by
  have missing : ¬ documented lines n = true := by simp [undocumented]
  rw [documented_iff] at missing
  by_cases empty : attachedBlock lines n = []
  · exact .inl empty
  · by_cases unrecognized : declarationAt lines n = .unrecognized
    · exact .inr (.inr unrecognized)
    · refine .inr (.inl ?_)
      simpa [reached, code, empty, unrecognized] using missing

theorem opensValue_iff (lines : List Text) (n : Nat) :
    opensValue lines n = true ↔
      documented lines n = true ∧ afterMethods lines n = false ∧
        (declarationAt lines n).isAssignment = true ∧
        Comment.opensString (declarationAt lines n).value = true := by
  rw [opensValue]
  simp [and_assoc]

theorem blockText_comment (comments : List Text) {line : Text}
    (kind : Script.lineKind line = .comment) :
    blockText (comments ++ [line]) = blockText comments ++ [Script.commentText line] := by
  unfold blockText
  rw [List.filter_append, List.dropWhile_append]
  split
  · rename_i empty
    rw [List.isEmpty_iff] at empty
    simp [empty, kind]
  · simp [kind]

theorem blockText_break (comments : List Text) {line : Text}
    (kind : Script.lineKind line = .bareMarker) :
    blockText (comments ++ [line]) =
      if blockText comments = [] then [] else blockText comments ++ [[]] := by
  unfold blockText
  rw [List.filter_append, List.dropWhile_append]
  simp only [List.map_eq_nil_iff, List.isEmpty_iff]
  split <;> simp [kind]

theorem blockText_lint (comments : List Text) {line : Text}
    (kind : Script.lineKind line = .lintDirective) :
    blockText (comments ++ [line]) = blockText comments := by
  simp [blockText, kind]

theorem commentsAbove_succ {lines : List Text} {n : Nat} (past : 2 ≤ n)
    (reached : swallowed lines n = false)
    (kind : kindAt lines n = .comment ∨ kindAt lines n = .bareMarker ∨ kindAt lines n = .lintDirective) :
    commentsAbove lines (n + 1) = commentsAbove lines n ++ [strippedAt lines n] := by
  have notFirst : ¬ n ≤ 1 := by omega
  rw [commentsAbove]
  rcases kind with kind | kind | kind <;> simp [notFirst, reached, kind]

theorem commentsAbove_succ_closed {lines : List Text} {n : Nat}
    (closed : n ≤ 1 ∨ swallowed lines n = true ∨ kindAt lines n = .blank ∨ kindAt lines n = .code) :
    commentsAbove lines (n + 1) = [] := by
  rw [commentsAbove]
  rcases closed with first | inside | blank | code
  · simp [first]
  · simp [inside]
  · simp [blank]
  · simp [code]

theorem attachedBlock_succ_closed {lines : List Text} {n : Nat}
    (closed : n ≤ 1 ∨ swallowed lines n = true ∨ kindAt lines n = .blank ∨ kindAt lines n = .code) :
    attachedBlock lines (n + 1) = [] := by
  simp [attachedBlock, commentsAbove_succ_closed closed, blockText]

/-- Inside an open value there is no block: the opening line is code, and all after it is swallowed. -/
theorem attachedBlock_swallowed {lines : List Text} {n : Nat} (inside : swallowed lines n = true) :
    attachedBlock lines n = [] := by
  cases n with
  | zero => simp [swallowed_zero] at inside
  | succ n =>
      rw [swallowed_succ, Bool.or_eq_true, Bool.and_eq_true] at inside
      rcases inside with opens | ⟨above, _⟩
      · have code := ((documented_iff lines n).mp ((opensValue_iff lines n).mp opens).1).2.1
        exact attachedBlock_succ_closed (.inr (.inr (.inr code)))
      · exact attachedBlock_succ_closed (.inr (.inl above))

theorem opensValue_undocumented {lines : List Text} {n : Nat} (undocumented : documented lines n = false) :
    opensValue lines n = false := by
  rw [opensValue, undocumented]
  rfl

theorem entityAt_undocumented {lines : List Text} {n : Nat} (undocumented : documented lines n = false) :
    entityAt lines n = none := by
  simp [entityAt, candidateAt, undocumented]

theorem candidateAt_method {lines : List Text} {n : Nat} {name : Text} {method : Method}
    (documents : documented lines n = true) (declared : declarationAt lines n = .method name)
    (read : Comment.readMethod name (attachedBlock lines n) = some method) :
    candidateAt lines n = some (.method { method with line := n }) := by
  have noAssignment : (declarationAt lines n).isAssignment = false := by rw [declared]; rfl
  have sameName : (declarationAt lines n).name = name := by rw [declared]; rfl
  simp only [candidateAt, documents, noAssignment, sameName, read]
  rfl

theorem candidateAt_assignment {lines : List Text} {n : Nat} {found : Variable}
    (documents : documented lines n = true) (assigns : (declarationAt lines n).isAssignment = true)
    (before : afterMethods lines n = false)
    (read : Comment.readVariable (declarationAt lines n).name (declarationAt lines n).value
      (attachedBlock lines n) = some found) :
    candidateAt lines n = some (.ofVariable (declarationAt lines n).kind
      { found with
        line := n
        value := (declarationAt lines n).value ++
          if Comment.opensString (declarationAt lines n).value then continuationAfter lines n else [] }) := by
  simp only [candidateAt, documents, assigns, before, read]
  rfl

theorem entityAt_ignored {lines : List Text} {n : Nat}
    (assigns : (declarationAt lines n).isAssignment = true) (after : afterMethods lines n = true) :
    entityAt lines n = none := by
  simp [entityAt, candidateAt, assigns, after]

/-- The two ways in which a line documents an entity. -/
theorem candidateAt_cases {lines : List Text} {n : Nat} {entity : Entity}
    (found : candidateAt lines n = some entity) :
    documented lines n = true ∧
      ((∃ name method, declarationAt lines n = .method name ∧
          Comment.readMethod name (attachedBlock lines n) = some method ∧
          entity = .method { method with line := n }) ∨
        ((declarationAt lines n).isAssignment = true ∧ afterMethods lines n = false ∧
          ∃ assigned, Comment.readVariable (declarationAt lines n).name (declarationAt lines n).value
              (attachedBlock lines n) = some assigned ∧
            entity = .ofVariable (declarationAt lines n).kind
              { assigned with
                line := n
                value := (declarationAt lines n).value ++
                  if Comment.opensString (declarationAt lines n).value then continuationAfter lines n
                  else [] })) := by
  cases documents : documented lines n with
  | false => simp [candidateAt, documents] at found
  | true =>
      obtain ⟨_, _, declares, filled, shown⟩ := (documented_iff lines n).mp documents
      refine ⟨rfl, ?_⟩
      cases assigns : (declarationAt lines n).isAssignment with
      | false =>
          obtain ⟨name, declared⟩ : ∃ name, declarationAt lines n = .method name := by
            cases declared : declarationAt lines n <;> simp_all [Script.Declaration.isAssignment]
          obtain ⟨method, read⟩ := Comment.readMethod_exists name filled shown
          rw [candidateAt_method documents declared read] at found
          exact .inl ⟨name, method, declared, read, (Option.some.inj found).symm⟩
      | true =>
          cases after : afterMethods lines n with
          | true => simp [candidateAt, assigns, after] at found
          | false =>
              obtain ⟨assigned, read⟩ := Comment.readVariable_exists (declarationAt lines n).name
                (declarationAt lines n).value filled shown
              rw [candidateAt_assignment documents assigns after read] at found
              exact .inr ⟨rfl, rfl, assigned, read, (Option.some.inj found).symm⟩

theorem entityAt_line {lines : List Text} {n : Nat} {entity : Entity}
    (found : entityAt lines n = some entity) : entity.line = n := by
  obtain ⟨_, ⟨name, method, _, _, same⟩ | ⟨_, _, assigned, _, same⟩⟩ :=
    candidateAt_cases (Option.filter_eq_some_iff.mp found).1
  · rw [same]
    rfl
  · rw [same, Entity.ofVariable_line]

/-- What is known of an assigned entity from the line it stands on. -/
structure AssignedAt (lines : List Text) (n : Nat) (entity : Variable) : Prop where
  assigns : (declarationAt lines n).isAssignment = true
  name : entity.name = (declarationAt lines n).name
  desc : entity.desc = (Comment.extractType (attachedBlock lines n)).1
  described : entity.desc ≠ []
  type : entity.type = if (Comment.extractType (attachedBlock lines n)).2 = .unknown
    then Comment.guessType (declarationAt lines n).value
    else (Comment.extractType (attachedBlock lines n)).2
  value : entity.value = (declarationAt lines n).value ++
    if Comment.opensString (declarationAt lines n).value then continuationAfter lines n else []
  line : entity.line = n

theorem entityAt_cases {lines : List Text} {n : Nat} {entity : Entity}
    (found : entityAt lines n = some entity) :
    (∃ name method, declarationAt lines n = .method name ∧
        Comment.readMethod name (attachedBlock lines n) = some method ∧ method.desc ≠ [] ∧
        entity = .method { method with line := n }) ∨
      ∃ assigned, AssignedAt lines n assigned ∧
        entity = .ofVariable (declarationAt lines n).kind assigned := by
  obtain ⟨candidate, described⟩ := Option.filter_eq_some_iff.mp found
  have filledDesc : entity.desc ≠ [] := by simpa using described
  obtain ⟨_, ⟨name, method, declared, read, same⟩ | ⟨assigns, _, assigned, read, same⟩⟩ :=
    candidateAt_cases candidate
  · refine .inl ⟨name, method, declared, read, ?_, same⟩
    simpa [same, Entity.desc] using filledDesc
  · rw [same, Entity.ofVariable_desc] at filledDesc
    obtain ⟨_, rfl⟩ := Comment.readVariable_eq_some_iff.mp read
    exact .inr ⟨_, ⟨assigns, rfl, rfl, filledDesc, rfl, rfl, rfl⟩, same⟩

theorem entityAt_constant {lines : List Text} {n : Nat} {entity : Variable}
    (found : entityAt lines n = some (.constant entity)) :
    (declarationAt lines n).kind = .constant ∧ AssignedAt lines n entity := by
  obtain ⟨_, _, _, _, _, same⟩ | ⟨assigned, facts, same⟩ := entityAt_cases found
  · contradiction
  · unfold Entity.ofVariable at same
    split at same
    · rename_i constant
      cases same
      exact ⟨constant, facts⟩
    · contradiction

theorem entityAt_var {lines : List Text} {n : Nat} {entity : Variable}
    (found : entityAt lines n = some (.var entity)) :
    (declarationAt lines n).kind = .variable ∧ AssignedAt lines n entity := by
  obtain ⟨_, _, _, _, _, same⟩ | ⟨assigned, facts, same⟩ := entityAt_cases found
  · contradiction
  · have assigns := facts.assigns
    unfold Entity.ofVariable at same
    split at same
    · contradiction
    · cases same
      refine ⟨?_, facts⟩
      cases declared : declarationAt lines n <;>
        simp_all [Script.Declaration.isAssignment, Script.Declaration.kind]

theorem entityAt_method {lines : List Text} {n : Nat} {entity : Method}
    (found : entityAt lines n = some (.method entity)) :
    ∃ method, declarationAt lines n = .method entity.name ∧
      Comment.readMethod entity.name (attachedBlock lines n) = some method ∧ method.desc ≠ [] ∧
      entity = { method with line := n } := by
  obtain ⟨name, method, declared, read, described, same⟩ | ⟨assigned, _, same⟩ := entityAt_cases found
  · cases same
    have sameName : method.name = name := by
      rw [(Comment.readMethod_eq_some_iff.mp read).2]
      exact (Comment.applyDirectives_frame _ _).1
    subst sameName
    exact ⟨method, declared, read, described, rfl⟩
  · unfold Entity.ofVariable at same
    split at same <;> contradiction

theorem Extracted.documented {lines : List Text} {n : Nat} (extracted : Extracted lines n) :
    Extraction.documented lines n = true :=
  (documented_iff lines n).mpr
    ⟨extracted.reached, extracted.code, extracted.declares, extracted.commented, extracted.shown⟩

theorem documented_first (lines : List Text) {n : Nat} (first : n ≤ 1) : documented lines n = false := by
  have noBlock : attachedBlock lines n = [] := by
    cases n with
    | zero => simp [attachedBlock, commentsAbove, blockText]
    | succ n => exact attachedBlock_succ_closed (.inl (by omega))
  cases found : documented lines n with
  | false => rfl
  | true => exact absurd noBlock ((documented_iff lines n).mp found).2.2.2.1

theorem entitiesUpTo_succ (lines : List Text) (n : Nat) :
    entitiesUpTo lines (n + 1) = entitiesUpTo lines n ++ (entityAt lines (n + 1)).toList := by
  unfold entitiesUpTo
  rw [List.range_succ, List.filterMap_append]
  cases found : entityAt lines (n + 1) <;> simp [found]

theorem extracted_of_entityAt {lines : List Text} {n : Nat} {entity : Entity}
    (found : entityAt lines n = some entity) : Extracted lines n := by
  obtain ⟨candidate, described⟩ := Option.filter_eq_some_iff.mp found
  have filledDesc : entity.desc ≠ [] := by simpa using described
  obtain ⟨documents, how⟩ := candidateAt_cases candidate
  obtain ⟨reached, code, declares, commented, shown⟩ := (documented_iff lines n).mp documents
  have pastFirst : 2 ≤ n := by
    cases Nat.lt_or_ge n 2 with
    | inl early => simp [documented_first lines (Nat.le_of_lt_succ early)] at documents
    | inr past => exact past
  refine ⟨pastFirst, reached, code, declares, commented, shown, ?_, ?_⟩
  · rcases how with ⟨name, method, declared, read, same⟩ | ⟨assigns, _, assigned, read, same⟩
    · rw [declared]
      simpa [Describes, ← Comment.readMethod_desc read, same, Entity.desc] using filledDesc
    · have sameDesc : assigned.desc = (Comment.extractType (attachedBlock lines n)).1 :=
        congrArg Variable.desc (Comment.readVariable_eq_some_iff.mp read).2
      rw [same, Entity.ofVariable_desc] at filledDesc
      cases declared : declarationAt lines n <;>
        simp_all [Describes, Script.Declaration.isAssignment]
  · intro assigns above before documentsAbove isMethod
    rcases how with ⟨name, _, declared, _⟩ | ⟨_, unseen, _⟩
    · simp [declared, Script.Declaration.isAssignment] at assigns
    · have seen := (afterMethods_iff lines n).mpr ⟨above, before, documentsAbove, isMethod⟩
      simp [seen] at unseen

theorem entityAt_of_extracted {lines : List Text} {n : Nat} (extracted : Extracted lines n) :
    ∃ entity, entityAt lines n = some entity := by
  have documents := extracted.documented
  have described := extracted.described
  cases assigns : (declarationAt lines n).isAssignment with
  | false =>
      have declares := extracted.declares
      obtain ⟨name, declared⟩ : ∃ name, declarationAt lines n = .method name := by
        cases declared : declarationAt lines n <;> simp_all [Script.Declaration.isAssignment]
      obtain ⟨method, read⟩ := Comment.readMethod_exists name extracted.commented extracted.shown
      refine ⟨_, Option.filter_eq_some_iff.mpr ⟨candidateAt_method documents declared read, ?_⟩⟩
      rw [declared] at described
      simpa [Entity.desc, Comment.readMethod_desc read, Describes] using described
  | true =>
      have before : afterMethods lines n = false := by
        cases after : afterMethods lines n with
        | false => rfl
        | true =>
            obtain ⟨above, below, documentsAbove, isMethod⟩ := (afterMethods_iff lines n).mp after
            exact absurd isMethod (extracted.beforeMethods assigns above below documentsAbove)
      obtain ⟨assigned, read⟩ := Comment.readVariable_exists (declarationAt lines n).name
        (declarationAt lines n).value extracted.commented extracted.shown
      have sameDesc : assigned.desc = (Comment.extractType (attachedBlock lines n)).1 :=
        congrArg Variable.desc (Comment.readVariable_eq_some_iff.mp read).2
      refine ⟨_, Option.filter_eq_some_iff.mpr ⟨candidateAt_assignment documents assigns before read, ?_⟩⟩
      rw [Entity.ofVariable_desc, sameDesc]
      cases declared : declarationAt lines n <;>
        simp_all [Describes, Script.Declaration.isAssignment]

theorem Extracted.within {lines : List Text} {n : Nat} (extracted : Extracted lines n) :
    n ≤ lines.length := by
  cases Nat.lt_or_ge lines.length n with
  | inl beyond =>
      have code := extracted.code
      simp [kindAt, strippedAt, lineAt_beyond beyond, Text.trimLeft, Script.lineKind] at code
  | inr inside => exact inside

end ScriptDocs.Extraction
