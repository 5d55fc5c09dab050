import Mathlib.Data.List.DropRight
import ScriptDocs.Comment.Pending

namespace ScriptDocs.Comment

/-!
No comment line is lost on its way through the pending block, and none is repeated. In whatever order
lines are appended, paragraphs are broken and blocks are taken, the blocks that were taken and the one
still open hold each appended line once, in order, and an empty line for each break inside a block.
Whether a break was inside one, the history says by itself: a line was appended since the last take.
-/

inductive Action where
  | append (text : Text)
  | appendBreak
  | take
  deriving DecidableEq, Repr

def Action.appends : Action → Bool
  | .append _ => true
  | _ => false

/-- Whether a history leaves a block open: a line was appended since the last take. -/
def leavesOpen (history : List Action) : Bool :=
  (history.rtakeWhile (· != .take)).any Action.appends

/-- The lines that an action contributes when `history` came before it. -/
def Action.lines (history : List Action) : Action → List Text
  | .append text => [text]
  | .appendBreak => if leavesOpen history then [[]] else []
  | .take => []

def linesFrom (history : List Action) : List Action → List Text
  | [] => []
  | action :: actions => action.lines history ++ linesFrom (history ++ [action]) actions

/-- A history leaves a block open that holds `lines`: the first one was appended when no block was open,
and nothing was taken since. -/
def LeavesBlock (history : List Action) (lines : List Text) : Prop :=
  ∃ before text inside, history = before ++ .append text :: inside ∧ leavesOpen before = false ∧
    .take ∉ inside ∧ lines = text :: linesFrom (before ++ [.append text]) inside

namespace Pending

/-- The block that an action takes, if it takes one, and the state after it. -/
def perform (pending : Pending) : Action → List (List Text) × Pending
  | .append text => ([], pending.append text)
  | .appendBreak => ([], pending.appendBreak)
  | .take => ([pending.take.1], pending.take.2)

def performAll (pending : Pending) : List Action → List (List Text) × Pending
  | [] => ([], pending)
  | action :: actions =>
      let (taken, after) := pending.perform action
      let (others, last) := after.performAll actions
      (taken ++ others, last)

end Pending

/-- The blocks taken in a history that starts with nothing collected. -/
def blocksTaken (history : List Action) : List (List Text) :=
  (({} : Pending).performAll history).1

def pendingAfter (history : List Action) : Pending :=
  (({} : Pending).performAll history).2

/-! ### Histories -/

section Histories

variable (history : List Action)

@[simp] theorem leavesOpen_append (text : Text) : leavesOpen (history ++ [.append text]) = true := by
  simp [leavesOpen, Action.appends]

@[simp] theorem leavesOpen_appendBreak :
    leavesOpen (history ++ [.appendBreak]) = leavesOpen history := by
  simp [leavesOpen, Action.appends]

@[simp] theorem leavesOpen_take : leavesOpen (history ++ [.take]) = false := by
  simp [leavesOpen]

theorem linesFrom_concat (before : List Action) (action : Action) :
    linesFrom before (history ++ [action]) =
      linesFrom before history ++ action.lines (before ++ history) := by
  induction history generalizing before with
  | nil => simp [linesFrom]
  | cons first history ih =>
      rw [List.cons_append, linesFrom, linesFrom, ih, List.append_assoc, List.append_assoc,
        List.singleton_append]

/-- The open block of a history starts at an append that found no block open. -/
theorem exists_opening {history : List Action} (isOpen : leavesOpen history = true) :
    ∃ before text inside, history = before ++ .append text :: inside ∧ leavesOpen before = false ∧
      .take ∉ inside := by
  induction history using List.reverseRecOn with
  | nil => simp [leavesOpen] at isOpen
  | append_singleton history action ih =>
      -- An action that leaves an open block open is one more action inside it.
      have extend : action ≠ .take → leavesOpen history = true →
          ∃ before text inside, history ++ [action] = before ++ .append text :: inside ∧
            leavesOpen before = false ∧ .take ∉ inside := by
        intro kept wasOpen
        obtain ⟨before, text, inside, whole, closed, untaken⟩ := ih wasOpen
        refine ⟨before, text, inside ++ [action], by rw [whole, List.append_assoc]; rfl, closed, ?_⟩
        simp [untaken, kept.symm]
      cases action with
      | append text =>
          cases wasOpen : leavesOpen history with
          | true => exact extend (by simp) wasOpen
          | false => exact ⟨history, text, [], rfl, wasOpen, by simp⟩
      | appendBreak => exact extend (by simp) (by simpa using isOpen)
      | take => simp at isOpen

end Histories

/-! ### One action -/

/-- What holds of the blocks taken in a history and of the state that it leaves. -/
structure Collected (history : List Action) (taken : List (List Text)) (pending : Pending) : Prop where
  isOpen : pending.buffer.isSome = leavesOpen history
  filled : pending.buffer ≠ some []
  lines : taken.flatten ++ pending.buffer.getD [] = linesFrom [] history
  claimed : pending.aboutClaimed = true ↔ ∃ block ∈ taken, block ≠ []

section Step

variable {history : List Action} {taken : List (List Text)} {pending : Pending}

theorem Collected.append (collected : Collected history taken pending) (text : Text) :
    Collected (history ++ [.append text]) taken (pending.append text) where
  isOpen := by simp [Pending.append]
  filled := by simp [Pending.append]
  lines := by
    rw [linesFrom_concat, ← collected.lines, List.append_assoc]
    rfl
  claimed := collected.claimed

theorem Collected.appendBreak (collected : Collected history taken pending) :
    Collected (history ++ [.appendBreak]) taken pending.appendBreak where
  isOpen := by simpa [Pending.appendBreak] using collected.isOpen
  filled := by simp [Pending.appendBreak]
  lines := by
    rw [linesFrom_concat, ← collected.lines, Action.lines, List.nil_append, ← collected.isOpen,
      List.append_assoc]
    cases found : pending.buffer with
    | none => simp [Pending.appendBreak, found]
    | some lines => simp [Pending.appendBreak, found]
  claimed := collected.claimed

theorem Collected.take (collected : Collected history taken pending) :
    Collected (history ++ [.take]) (taken ++ [pending.take.1]) pending.take.2 where
  isOpen := by simp [Pending.take]
  filled := by simp [Pending.take]
  lines := by
    rw [linesFrom_concat, ← collected.lines]
    simp [Pending.take, Action.lines]
  claimed := by
    -- The block that is taken is empty only if none was open, as an open one is never empty.
    have nonempty : pending.buffer.isSome = true ↔ pending.take.1 ≠ [] := by
      have filled := collected.filled
      cases found : pending.buffer with
      | none => simp [Pending.take, found]
      | some lines => simpa [Pending.take, found] using filled
    simp only [Pending.take, Bool.or_eq_true, collected.claimed, nonempty, List.mem_append,
      List.mem_singleton, or_and_right, exists_or, exists_eq_left]

theorem Collected.perform (collected : Collected history taken pending) (action : Action) :
    Collected (history ++ [action]) (taken ++ (pending.perform action).1) (pending.perform action).2 := by
  cases action with
  | append text => simpa [Pending.perform] using collected.append text
  | appendBreak => simpa [Pending.perform] using collected.appendBreak
  | take => exact collected.take

end Step

/-! ### Actions in a row -/

theorem Pending.performAll_append (pending : Pending) (actions more : List Action) :
    pending.performAll (actions ++ more) =
      ((pending.performAll actions).1 ++ ((pending.performAll actions).2.performAll more).1,
        ((pending.performAll actions).2.performAll more).2) := by
  induction actions generalizing pending with
  | nil => rfl
  | cons action actions ih => simp only [List.cons_append, Pending.performAll, ih, List.append_assoc]

theorem Collected.performAll {history : List Action} {taken : List (List Text)} {pending : Pending}
    (collected : Collected history taken pending) (actions : List Action) :
    Collected (history ++ actions) (taken ++ (pending.performAll actions).1)
      (pending.performAll actions).2 := by
  induction actions generalizing history taken pending with
  | nil => simpa [Pending.performAll] using collected
  | cons action actions ih =>
      have rest := ih (collected.perform action)
      rwa [List.append_assoc, List.append_assoc] at rest

theorem collected_pendingAfter (history : List Action) :
    Collected history (blocksTaken history) (pendingAfter history) := by
  have fresh : Collected [] [] {} := ⟨rfl, by simp, rfl, by simp⟩
  exact fresh.performAll history

theorem Pending.performAll_methodsSeen (pending : Pending) (actions : List Action) :
    (pending.performAll actions).2.methodsSeen = pending.methodsSeen := by
  induction actions generalizing pending with
  | nil => rfl
  | cons action actions ih =>
      have first : (pending.perform action).2.methodsSeen = pending.methodsSeen := by
        cases action <;> rfl
      exact (ih _).trans first

/-- Until a block is taken, every action contributes to it. -/
theorem Pending.performAll_inside {history : List Action} {pending : Pending} {lines : List Text}
    {actions : List Action} (buffer : pending.buffer = some lines) (isOpen : leavesOpen history = true)
    (untaken : .take ∉ actions) :
    (pending.performAll actions).2.buffer = some (lines ++ linesFrom history actions) := by
  induction actions generalizing history pending lines with
  | nil => simpa [Pending.performAll, linesFrom] using buffer
  | cons action actions ih =>
      obtain ⟨kept, others⟩ := List.ne_and_not_mem_of_not_mem_cons untaken
      have still : leavesOpen (history ++ [action]) = true := by
        cases action with
        | append text => simp
        | appendBreak => simpa using isOpen
        | take => contradiction
      have longer : (pending.perform action).2.buffer = some (lines ++ action.lines history) := by
        cases action with
        | append text => simp [Pending.perform, Pending.append, buffer, Action.lines]
        | appendBreak => simp [Pending.perform, Pending.appendBreak, buffer, Action.lines, isOpen]
        | take => contradiction
      have rest := ih longer still others
      rwa [List.append_assoc] at rest

theorem buffer_of_opening {before inside : List Action} (text : Text)
    (closed : leavesOpen before = false) (untaken : .take ∉ inside) :
    (pendingAfter (before ++ .append text :: inside)).buffer =
      some (text :: linesFrom (before ++ [.append text]) inside) := by
  have noBuffer : (pendingAfter before).buffer = none := by
    have absent := (collected_pendingAfter before).isOpen
    rw [closed] at absent
    simpa using absent
  have first : ((pendingAfter before).append text).buffer = some [text] := by
    simp [Pending.append, noBuffer]
  rw [pendingAfter, Pending.performAll_append]
  exact Pending.performAll_inside first (leavesOpen_append before text) untaken

theorem pendingAfter_buffer_iff (history : List Action) (lines : List Text) :
    (pendingAfter history).buffer = some lines ↔ LeavesBlock history lines := by
  constructor
  · intro buffer
    have isOpen : leavesOpen history = true := by
      rw [← (collected_pendingAfter history).isOpen, buffer, Option.isSome_some]
    obtain ⟨before, text, inside, rfl, closed, untaken⟩ := exists_opening isOpen
    rw [buffer_of_opening text closed untaken, Option.some.injEq] at buffer
    exact ⟨before, text, inside, rfl, closed, untaken, buffer.symm⟩
  · rintro ⟨before, text, inside, rfl, closed, untaken, rfl⟩
    exact buffer_of_opening text closed untaken

/-- After any history the open block starts with an appended line and goes on with the lines behind it,
and together with the blocks that were taken it holds each line once. A block with lines was taken
exactly if the about text is claimed. -/
theorem pending_keepsLines (history : List Action) :
    (∀ lines, (pendingAfter history).buffer = some lines ↔ LeavesBlock history lines) ∧
    (pendingAfter history).buffer.isSome = leavesOpen history ∧
    (blocksTaken history).flatten ++ (pendingAfter history).buffer.getD [] = linesFrom [] history ∧
    ((pendingAfter history).aboutClaimed = true ↔ ∃ block ∈ blocksTaken history, block ≠ []) ∧
    ∀ pending : Pending, (pending.performAll history).2.methodsSeen = pending.methodsSeen := by
  have collected := collected_pendingAfter history
  exact ⟨pendingAfter_buffer_iff history, collected.isOpen, collected.lines, collected.claimed,
    fun pending => pending.performAll_methodsSeen history⟩

-- A break before the first line leaves nothing behind, an appended empty line opens a block.
example : ({} : Pending).performAll
    [.appendBreak, .append ['a'], .appendBreak, .take, .appendBreak, .take, .append []] =
      ([[['a'], []], []], { buffer := some [[]], aboutClaimed := true }) := by
  decide

end ScriptDocs.Comment
