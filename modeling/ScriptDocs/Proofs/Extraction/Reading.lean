import ScriptDocs.Proofs.Extraction.Tracking

/-!
Extraction as a loop over a cursor. The loop asks for one line after the other, and when a line opens a
string it asks at once for the lines that close it. The fold over the lines keeps such a value open in its
state instead, from line to line, and comes to the same.
-/

namespace ScriptDocs.Script

theorem splitAfter_length (terminator : Text) (lines : List Text) :
    (splitAfter terminator lines).2.length ≤ lines.length := by
  fun_induction splitAfter terminator lines with
  | case1 => exact Nat.le_refl 0
  | case2 line rest ends => exact Nat.le_succ rest.length
  | case3 line rest unended taken left split ih =>
      rw [split] at ih
      exact Nat.le_succ_of_le ih

namespace Cursor

variable {cursor after : Cursor} {number : Nat} {line : Text}

theorem next_eq_some (taken : cursor.next = (some (number, line), after)) :
    number = cursor.lineNumber + 1 ∧ after.lineNumber = number ∧
      cursor.remaining = line :: after.remaining := by
  cases left : cursor.remaining with
  | nil => simp [next, left] at taken
  | cons first rest =>
      simp only [next, left, Prod.mk.injEq, Option.some.injEq] at taken
      obtain ⟨⟨rfl, rfl⟩, rfl⟩ := taken
      exact ⟨rfl, rfl, rfl⟩

theorem next_eq_none (ended : cursor.next = (none, after)) : cursor.remaining = [] := by
  cases left : cursor.remaining with
  | nil => rfl
  | cons first rest => simp [next, left] at ended

theorem next_length (taken : cursor.next = (some (number, line), after)) :
    after.remaining.length < cursor.remaining.length := by
  obtain ⟨_, _, remaining⟩ := next_eq_some taken
  rw [remaining]
  exact Nat.lt_succ_self _

theorem continuation_length (cursor : Cursor) (terminator : Text) :
    (cursor.continuation terminator).2.remaining.length ≤ cursor.remaining.length :=
  splitAfter_length terminator cursor.remaining

end Cursor

end ScriptDocs.Script

namespace ScriptDocs.Extraction

open Script (Cursor splitAfter)

namespace State

/-- Takes in a line that was handed out with its number. -/
def takeIn (state : State) (number : Nat) (line : Text) : State :=
  let state := { state with lineNumber := number }
  if number == 1 then state else state.scanLine (Text.trimLeft ' ' line)

/-- Adds the variable of an open value that goes on with some text, up to a line with this number. -/
def complete (state : State) (value : OpenValue) (more : Text) (number : Nat) : State :=
  { state with lineNumber := number, openValue := none }.addVariable
    { value.entity with value := value.entity.value ++ more } value.kind

/-- Reads all that a cursor still hands out. -/
def read (state : State) (cursor : Cursor) : State :=
  match _ : cursor.next with
  | (none, _) => state
  | (some (number, line), after) =>
      let state := state.takeIn number line
      match state.openValue with
      | none => state.read after
      | some value =>
          let reply := after.continuation ['"']
          (state.complete value reply.1 reply.2.lineNumber).read reply.2
termination_by cursor.remaining.length
decreasing_by
  · exact Cursor.next_length ‹_›
  · exact Nat.lt_of_le_of_lt (after.continuation_length ['"']) (Cursor.next_length ‹_›)

theorem step_closed {state : State} (closed : state.openValue = none) (line : Text) :
    state.step line = state.takeIn (state.lineNumber + 1) line := by
  simp only [step, closed, takeIn]

theorem complete_closed (state : State) (value : OpenValue) (more : Text) (number : Nat) :
    (state.complete value more number).openValue = none := by
  obtain ⟨_, added⟩ := addVariable_eq { state with lineNumber := number, openValue := none }
    { value.entity with value := value.entity.value ++ more } value.kind
  rw [complete, added]

theorem complete_lineNumber (state : State) (value : OpenValue) (more : Text) (number : Nat) :
    (state.complete value more number).lineNumber = number := by
  obtain ⟨_, added⟩ := addVariable_eq { state with lineNumber := number, openValue := none }
    { value.entity with value := value.entity.value ++ more } value.kind
  rw [complete, added]

theorem finish_open {state : State} {value : OpenValue} (opened : state.openValue = some value) :
    state.finish = state.complete value [] state.lineNumber := by
  rw [finish, opened, complete, List.append_nil]

theorem finish_complete (state : State) (value : OpenValue) (more : Text) (number : Nat) :
    (state.complete value more number).finish = state.complete value more number := by
  rw [finish, complete_closed]

/-- A value that is open is completed by the lines up to the first that ends in a quote, or by all. -/
theorem foldl_open {state : State} {value : OpenValue} (opened : state.openValue = some value)
    (lines : List Text) :
    (lines.foldl step state).finish =
      ((splitAfter ['"'] lines).2.foldl step (state.complete value (splitAfter ['"'] lines).1.flatten
        (state.lineNumber + (splitAfter ['"'] lines).1.length))).finish := by
  induction lines generalizing state value with
  | nil => exact (finish_open opened).trans (finish_complete state value [] state.lineNumber).symm
  | cons line lines ih =>
      rw [List.foldl_cons, step_open opened, continueValue, splitAfter, isSuffixOf_quote, endsInQuote]
      cases line.getLast? == some '"' with
      | true => simp [complete]
      | false =>
          simp only [Bool.false_eq_true, if_false]
          rw [ih rfl]
          simp [complete, Nat.add_assoc, Nat.add_comm 1]

theorem foldl_next {state : State} {cursor after : Cursor} {number : Nat} {line : Text}
    (closed : state.openValue = none) (numbered : state.lineNumber = cursor.lineNumber)
    (taken : cursor.next = (some (number, line), after)) :
    cursor.remaining.foldl step state = after.remaining.foldl step (state.takeIn number line) ∧
      (state.takeIn number line).lineNumber = after.lineNumber := by
  obtain ⟨counted, handed, remaining⟩ := Cursor.next_eq_some taken
  rw [handed, counted, ← numbered, ← step_closed closed, remaining, List.foldl_cons, step_lineNumber]
  exact ⟨rfl, rfl⟩

/-- Reading from a cursor is folding over the lines that it has left. -/
theorem read_eq_foldl {state : State} {cursor : Cursor} (closed : state.openValue = none)
    (numbered : state.lineNumber = cursor.lineNumber) :
    state.read cursor = (cursor.remaining.foldl step state).finish := by
  fun_induction read state cursor with
  | case1 state cursor after ended =>
      rw [Cursor.next_eq_none ended, List.foldl_nil, finish, closed]
  | case2 state cursor number line after taken next unopened ih =>
      obtain ⟨foldsOn, counted⟩ := foldl_next closed numbered taken
      rw [ih unopened counted, foldsOn]
  | case3 state cursor number line after taken next value opened reply ih =>
      obtain ⟨foldsOn, counted⟩ := foldl_next closed numbered taken
      rw [ih (complete_closed _ _ _ _) (complete_lineNumber _ _ _ _), foldsOn, foldl_open opened, counted]
      rfl

end State

/-- Extraction is the loop over the cursor of a text. -/
theorem run_eq_read (title text : Text) :
    run title (Script.linesOf text) = (State.start title).read (.ofText text) := by
  rw [State.read_eq_foldl rfl rfl]
  rfl

end ScriptDocs.Extraction
