import ScriptDocs.Proofs.Extraction.WellFormed

namespace ScriptDocs.Extraction

/-!
Quoted values that end on their own line. Whether a value goes on over the next lines is decided by its
first and its last character alone. A quote that closes the value earlier is not seen: what follows it on
the line decides whether the value keeps to its line or takes in the lines below, up to one that ends in
a quote.
-/

/-- A value that a quote opens and another one closes, which no backslash escapes; `after` is the rest of
the line. -/
structure ClosedQuote (value inside after : Text) : Prop where
  split : value = '"' :: (inside ++ '"' :: after)
  unescaped : (inside.reverse.takeWhile (· == '\\')).length % 2 = 0

def RunsOver (after : Text) : Prop :=
  after ≠ [] ∧ endsInQuote after = false

/-- The value of line `n` keeps to its line. The next line is scanned, and further down only values that
were opened below line `n` take lines in. -/
structure KeepsToLine (title text : Text) (n : Nat) : Prop where
  closed : (stateAfter title (Script.linesOf text) n).openValue = none
  value : ∀ entity ∈ (extract title text).1.constants ++ (extract title text).1.vars,
    entity.line = n → entity.value = (declarationAt (Script.linesOf text) n).value
  below : ∀ k, n < k → swallowed (Script.linesOf text) k = true →
    ∃ opener, n < opener ∧ opener < k ∧ opensValue (Script.linesOf text) opener = true

/-- The value of line `n` takes in all lines down to the first that ends in a quote. What they declare is
lost. -/
structure TakesLinesIn (title text : Text) (n : Nat) : Prop where
  opened : (stateAfter title (Script.linesOf text) n).openValue.isSome = true
  value : ∀ entity ∈ (extract title text).1.constants ++ (extract title text).1.vars,
    entity.line = n → entity.value =
      (declarationAt (Script.linesOf text) n).value ++ continuationAfter (Script.linesOf text) n
  lost : ∀ k, n < k →
    (∀ between, n < between → between < k → endsInQuote (lineAt (Script.linesOf text) between) = false) →
      k ∉ entityLines (extract title text).1

theorem ClosedQuote.opensString_iff {value inside after : Text} (quoted : ClosedQuote value inside after) :
    Comment.opensString value = true ↔ RunsOver after := by
  have last : value.getLast? = if after = [] then some '"' else after.getLast? := by
    rw [quoted.split, ← List.cons_append, List.getLast?_append, List.getLast?_cons]
    cases after with
    | nil => rfl
    | cons first rest => simp [List.getLast?_cons]
  have head : value.head? = some '"' := by rw [quoted.split]; rfl
  rw [Comment.opensString, last, head]
  by_cases ends : after = []
  · simp [RunsOver, ends]
  · simp [RunsOver, ends, endsInQuote]

theorem assigned_value (title text : Text) {n : Nat} {entity : Variable}
    (member : entity ∈ (extract title text).1.constants ++ (extract title text).1.vars)
    (line : entity.line = n) : AssignedAt (Script.linesOf text) n entity := by
  obtain ⟨constants, vars, _⟩ := run_entities title (Script.linesOf text)
  subst line
  rcases List.mem_append.mp member with inConstants | inVars
  · exact (entityAt_constant (constants entity inConstants)).2
  · exact (entityAt_var (vars entity inVars)).2

theorem openValue_stateAfter (title : Text) {lines : List Text} {n : Nat} (within : n ≤ lines.length) :
    (stateAfter title lines n).openValue.isSome = swallowed lines (n + 1) :=
  (Tracks.after_take title lines n within).swallowing

theorem documented_within {lines : List Text} {n : Nat} (documents : documented lines n = true) :
    n ≤ lines.length := by
  have code := ((documented_iff lines n).mp documents).2.1
  cases Nat.lt_or_ge lines.length n with
  | inl beyond =>
      simp [kindAt, strippedAt, lineAt_beyond beyond, Text.trimLeft, Script.lineKind] at code
  | inr inside => exact inside

section Assignment

variable (title : Text) {text : Text} {n : Nat}
  (documents : documented (Script.linesOf text) n = true)

include documents

theorem keepsToLine_of_closed (closed : opensValue (Script.linesOf text) n = false)
    (complete : Comment.opensString (declarationAt (Script.linesOf text) n).value = false) :
    KeepsToLine title text n := by
  have reached := ((documented_iff _ n).mp documents).1
  refine ⟨?_, fun entity member line => ?_, fun k below inside => ?_⟩
  · have open? := openValue_stateAfter title (documented_within documents)
    rw [swallowed_succ, closed, reached] at open?
    simpa using open?
  · rw [(assigned_value title text member line).value, complete]
    exact List.append_nil _
  · obtain ⟨opener, above, opens, quiet⟩ := (swallowed_iff _ k).mp inside
    refine ⟨opener, ?_, above, opens⟩
    -- A value opened further up would have taken line `n` in as well.
    rcases Nat.lt_trichotomy opener n with earlier | same | later
    · have taken : swallowed (Script.linesOf text) n = true := by
        rw [swallowed_iff]
        exact ⟨opener, earlier, opens, fun between after before =>
          quiet between after (Nat.lt_trans before below)⟩
      rw [reached] at taken
      contradiction
    · rw [same, closed] at opens
      contradiction
    · exact later

theorem takesLinesIn_of_opens (opens : opensValue (Script.linesOf text) n = true) :
    TakesLinesIn title text n := by
  have opened := ((opensValue_iff _ n).mp opens).2.2.2
  refine ⟨?_, fun entity member line => ?_, fun k below quiet member => ?_⟩
  · rw [openValue_stateAfter title (documented_within documents), swallowed_succ, opens, Bool.true_or]
  · rw [(assigned_value title text member line).value, opened, if_pos rfl]
  · have taken : swallowed (Script.linesOf text) k = true := by
      rw [swallowed_iff]
      exact ⟨n, below, opens, quiet⟩
    have extracted := extracted_of_mem_entityLines (run_holds title (Script.linesOf text)) member
    rw [extracted.reached] at taken
    contradiction

end Assignment

theorem KeepsToLine.not_takesLinesIn {title text : Text} {n : Nat} (keeps : KeepsToLine title text n) :
    ¬ TakesLinesIn title text n := by
  intro takes
  have opened := takes.opened
  rw [keeps.closed] at opened
  contradiction

/-- A documented value that is closed on its line keeps to the line exactly if nothing follows the closing
quote or what follows ends in a quote itself; otherwise it takes in the lines below. -/
theorem extract_closedQuote (title text : Text) {n : Nat} {inside after : Text}
    (documents : documented (Script.linesOf text) n = true)
    (before : afterMethods (Script.linesOf text) n = false)
    (assigns : (declarationAt (Script.linesOf text) n).isAssignment = true)
    (quoted : ClosedQuote (declarationAt (Script.linesOf text) n).value inside after) :
    (KeepsToLine title text n ↔ ¬ RunsOver after) ∧ (RunsOver after → TakesLinesIn title text n) := by
  have takes : RunsOver after → TakesLinesIn title text n := by
    intro runs
    apply takesLinesIn_of_opens title documents
    exact (opensValue_iff _ n).mpr ⟨documents, before, assigns, quoted.opensString_iff.mpr runs⟩
  refine ⟨⟨fun keeps runs => keeps.not_takesLinesIn (takes runs), fun stays => ?_⟩, takes⟩
  have complete : Comment.opensString (declarationAt (Script.linesOf text) n).value = false := by
    rw [Bool.eq_false_iff]
    exact fun opens => stays (quoted.opensString_iff.mp opens)
  apply keepsToLine_of_closed title documents _ complete
  rw [opensValue, complete, Bool.and_false]

theorem afterMethods_eq_run (title : Text) {lines : List Text} {k : Nat} (within : k ≤ lines.length) :
    afterMethods lines (k + 1) = (stateAfter title lines k).pending.methodsSeen :=
  (Tracks.after_take title lines k within).methodsSeen.symm

theorem documented_of_run (title : Text) {lines : List Text} {k : Nat} (within : k ≤ lines.length)
    (closed : (stateAfter title lines k).openValue = none)
    (shown : (stateAfter title lines k).pending.take.1 ≠ [] ∧
      Comment.isPrivate (stateAfter title lines k).pending.take.1 = false)
    (declares : kindAt lines (k + 1) = .code ∧ declarationAt lines (k + 1) ≠ .unrecognized) :
    documented lines (k + 1) = true := by
  rw [documented_iff, ← openValue_stateAfter title within, closed, attachedBlock_eq_run title within]
  exact ⟨rfl, declares.1, declares.2, shown.1, shown.2⟩

/-- Two values that are closed on their lines. A quote ends the line of the first, but not the line of the
second, which takes in the function below. -/
def hostLines : List Text :=
  ["#!/bin/sh".toList, "# Host".toList, "HOST=\"a\\\"b\" # not \"c\"".toList, "# Port".toList,
    "port=\"80\" # default".toList, "# Starts".toList, "start() (".toList]

theorem linesOf_hostLines : Script.linesOf (Script.textOf hostLines) = hostLines :=
  Script.linesOf_textOf (by decide)

theorem host_documented : documented hostLines 3 = true ∧ documented hostLines 5 = true := by
  constructor
  · exact documented_of_run [] (by decide) (by decide +kernel) (by decide +kernel) (by decide +kernel)
  · exact documented_of_run [] (by decide) (by decide +kernel) (by decide +kernel) (by decide +kernel)

theorem host_before : afterMethods hostLines 3 = false ∧ afterMethods hostLines 5 = false := by
  rw [afterMethods_eq_run [] (by decide), afterMethods_eq_run [] (by decide)]
  decide +kernel

theorem host_quoted :
    ClosedQuote (declarationAt hostLines 3).value "a\\\"b".toList " # not \"c\"".toList ∧
    ClosedQuote (declarationAt hostLines 5).value "80".toList " # default".toList :=
  ⟨⟨by decide +kernel, by decide +kernel⟩, by decide +kernel, by decide +kernel⟩

theorem extract_closedQuote_host :
    KeepsToLine [] (Script.textOf hostLines) 3 ∧ TakesLinesIn [] (Script.textOf hostLines) 5 := by
  have stays : ¬ RunsOver " # not \"c\"".toList := fun runs => absurd runs.2 (by decide)
  have runs : RunsOver " # default".toList := ⟨by decide, by decide⟩
  have first := @extract_closedQuote [] (Script.textOf hostLines) 3
  have second := @extract_closedQuote [] (Script.textOf hostLines) 5
  rw [linesOf_hostLines] at first second
  exact ⟨(first host_documented.1 host_before.1 (by decide +kernel) host_quoted.1).1.mpr stays,
    (second host_documented.2 host_before.2 (by decide +kernel) host_quoted.2).2 runs⟩

/-- A remark behind a quoted value costs the function below it its documentation. -/
theorem closedQuote_swallows_function :
    documented hostLines 5 = true ∧ afterMethods hostLines 5 = false ∧
    (declarationAt hostLines 5).isAssignment = true ∧
    ClosedQuote (declarationAt hostLines 5).value "80".toList " # default".toList ∧
    ¬ KeepsToLine [] (Script.textOf hostLines) 5 ∧
    (extract [] (Script.textOf hostLines)).1.vars.map Variable.value =
      ["\"80\" # default# Startsstart() (".toList] ∧
    (extract [] (Script.textOf hostLines)).1.methods = [] := by
  refine ⟨host_documented.2, host_before.2, by decide +kernel, host_quoted.2, fun keeps => ?_, ?_⟩
  · have closed := keeps.closed
    rw [linesOf_hostLines] at closed
    exact absurd closed (by decide +kernel)
  · rw [extract, linesOf_hostLines]
    decide +kernel

end ScriptDocs.Extraction
