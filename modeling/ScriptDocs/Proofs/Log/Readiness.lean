import ScriptDocs.Log.Journal

namespace ScriptDocs.Log

/-!
The journal after any history of configurations, added handlers, runs, scripts and messages. Format and
filter of a handler go together whatever came in which order, so no message is written with its run or
its script missing. Which script that is, the history says by itself: the one whose start has only
finished scripts behind it.
-/

inductive Event where
  | configure (choice : LevelChoice)
  | addHandler
  | setRunId (fresh given : Text)
  | enter (script : Text)
  | leave
  | log (clock name : Text) (level : Int) (message : Text)
  deriving DecidableEq, Repr

def Event.configures : Event → Bool
  | .configure _ => true
  | _ => false

def Event.nests : Event → Bool
  | .enter _ | .leave => true
  | _ => false

/-- The journal after one event. Messages leave no trace in it. -/
def Journal.after (journal : Journal) : Event → Journal
  | .configure choice => journal.configure choice
  | .addHandler => journal.addHandler
  | .setRunId fresh given => (journal.setRunId fresh given).2
  | .enter script => journal.enter script
  | .leave => journal.leave
  | .log _ _ _ _ => journal

/-- The journal after a history that starts with no handler, no run and no script. -/
def journalAfter (history : List Event) : Journal :=
  history.foldl Journal.after {}

/-- What holds of the fresh journal and is kept by every event holds after every history. -/
theorem journalAfter_invariant {motive : List Event → Journal → Prop} (fresh : motive [] {})
    (step : ∀ {history journal} event,
      motive history journal → motive (history ++ [event]) (journal.after event))
    (history : List Event) : motive history (journalAfter history) := by
  have run : ∀ (rest before : List Event) (journal : Journal), motive before journal →
      motive (before ++ rest) (rest.foldl Journal.after journal) := by
    intro rest
    induction rest with
    | nil =>
        intro before journal held
        rw [List.append_nil]
        exact held
    | cons event rest ih =>
        intro before journal held
        rw [List.append_cons]
        exact ih (before ++ [event]) (journal.after event) (step event held)
  exact run history [] {} fresh

/-! ### Handlers -/

def Handler.plain : Handler := {}

def Handler.ready : Handler := { formatted := true, filters := 1 }

def addedSince (history : List Event) : Nat :=
  (history.reverse.takeWhile (fun event => !event.configures)).count .addHandler

/-- Whether the first configuration found no handler and had to install one. -/
def installsDefault (history : List Event) : Bool :=
  (history.find? (fun event => event.configures || event == .addHandler)).any Event.configures

/-- The handlers of a journal: those that were there at the last configuration are ready, the others
are plain, and at most one of them was not added by hand. -/
def HandlersReady (history : List Event) (handlers : List Handler) : Prop :=
  ∃ configured,
    handlers = List.replicate configured .ready ++ List.replicate (addedSince history) .plain ∧
    configured + addedSince history =
      history.count .addHandler + (installsDefault history).toNat

theorem addedSince_configure (history : List Event) (choice : LevelChoice) :
    addedSince (history ++ [.configure choice]) = 0 := by
  simp [addedSince, Event.configures]

theorem addedSince_concat (history : List Event) {event : Event} (other : event.configures = false) :
    addedSince (history ++ [event]) = addedSince history + [event].count .addHandler := by
  rw [addedSince, List.reverse_append, List.reverse_singleton, List.singleton_append,
    List.takeWhile_cons, other]
  simp [addedSince, List.count_cons]

/-- A configuration installs a handler exactly if none was added and none was installed before. -/
theorem installsDefault_concat (history : List Event) (event : Event) :
    installsDefault (history ++ [event]) =
      (installsDefault history || (history.count .addHandler == 0 && event.configures)) := by
  unfold installsDefault
  rw [List.find?_append]
  cases found : history.find? (fun event => event.configures || event == .addHandler) with
  | none =>
      have absent : history.count .addHandler = 0 := by
        rw [List.count_eq_zero]
        intro member
        have passed := List.find?_eq_none.mp found .addHandler member
        simp at passed
      rw [absent]
      cases kind : event.configures with
      | true => simp [kind]
      | false => cases event <;> simp_all [Event.configures]
  | some first =>
      have passes := List.find?_some found
      cases kind : first.configures with
      | true => simp [kind]
      | false =>
          have added : first = .addHandler := by simpa [kind] using passes
          have member := List.mem_of_find?_eq_some found
          rw [added] at member
          have present : history.count .addHandler ≠ 0 :=
            fun absent => List.count_eq_zero.mp absent member
          simp [kind, present]

theorem map_ready (configured added : Nat) :
    (List.replicate configured Handler.ready ++ List.replicate added Handler.plain).map
        (fun handler => handler.format.ensureFilter) =
      List.replicate (configured + added) Handler.ready := by
  rw [List.map_append, List.map_replicate, List.map_replicate, ← List.replicate_append_replicate]
  rfl

theorem HandlersReady.configure {history : List Event} {journal : Journal}
    (ready : HandlersReady history journal.handlers) (choice : LevelChoice) :
    HandlersReady (history ++ [.configure choice]) (journal.configure choice).handlers := by
  obtain ⟨configured, handlers, total⟩ := ready
  have later : addedSince (history ++ [.configure choice]) = 0 := addedSince_configure history choice
  have counted :
      (history ++ [Event.configure choice]).count .addHandler = history.count .addHandler := by
    simp
  have installed := installsDefault_concat history (.configure choice)
  by_cases empty : configured + addedSince history = 0
  · obtain ⟨noneConfigured, noneAdded⟩ := Nat.add_eq_zero_iff.mp empty
    obtain ⟨noneByHand, noDefault⟩ := Nat.add_eq_zero_iff.mp (total.symm.trans empty)
    rw [noneConfigured, noneAdded] at handlers
    refine ⟨1, ?_, ?_⟩
    · rw [later, Journal.configure, handlers]
      rfl
    · rw [later, counted, installed, noneByHand]
      simp [Event.configures]
  · have occupied : journal.handlers.isEmpty = false := by
      rw [handlers, List.isEmpty_eq_false_iff, ← List.length_pos_iff, List.length_append,
        List.length_replicate, List.length_replicate]
      omega
    refine ⟨configured + addedSince history, ?_, ?_⟩
    · rw [later, List.replicate_zero, List.append_nil, ← map_ready, ← handlers, Journal.configure,
        occupied]
      rfl
    · -- Whatever stands there already was added by hand, or is the installed one.
      have same : installsDefault (history ++ [.configure choice]) = installsDefault history := by
        rw [installed]
        cases default : installsDefault history with
        | true => rfl
        | false =>
            rw [default] at total
            have byHand : history.count .addHandler ≠ 0 := by simpa [total] using empty
            simp [byHand]
      rw [later, counted, same, ← total, Nat.add_zero]

theorem HandlersReady.addHandler {history : List Event} {journal : Journal}
    (ready : HandlersReady history journal.handlers) :
    HandlersReady (history ++ [.addHandler]) journal.addHandler.handlers := by
  obtain ⟨configured, handlers, total⟩ := ready
  have later : addedSince (history ++ [.addHandler]) = addedSince history + 1 :=
    addedSince_concat history rfl
  refine ⟨configured, ?_, ?_⟩
  · rw [later, List.replicate_succ', ← List.append_assoc, ← handlers]
    rfl
  · have unconfigured : Event.addHandler.configures = false := rfl
    rw [later, installsDefault_concat, unconfigured, Bool.and_false, Bool.or_false,
      List.count_append, List.count_singleton_self]
    omega

theorem HandlersReady.other {history : List Event} {handlers : List Handler} {event : Event}
    (ready : HandlersReady history handlers) (unconfigured : event.configures = false)
    (noneAdded : event ≠ .addHandler) : HandlersReady (history ++ [event]) handlers := by
  have absent : [event].count .addHandler = 0 :=
    List.count_eq_zero.mpr (fun member => noneAdded (List.mem_singleton.mp member).symm)
  have later : addedSince (history ++ [event]) = addedSince history := by
    rw [addedSince_concat history unconfigured, absent, Nat.add_zero]
  rw [HandlersReady, later, installsDefault_concat, unconfigured, Bool.and_false, Bool.or_false,
    List.count_append, absent, Nat.add_zero]
  exact ready

theorem HandlersReady.after {history : List Event} {journal : Journal}
    (ready : HandlersReady history journal.handlers) (event : Event) :
    HandlersReady (history ++ [event]) (journal.after event).handlers := by
  cases event with
  | configure choice => exact ready.configure choice
  | addHandler => exact ready.addHandler
  | setRunId fresh given => exact ready.other rfl (by simp)
  | enter script => exact ready.other rfl (by simp)
  | leave => exact ready.other rfl (by simp)
  | log clock name level message => exact ready.other rfl (by simp)

theorem handlersReady (history : List Event) :
    HandlersReady history (journalAfter history).handlers :=
  journalAfter_invariant (motive := fun history journal => HandlersReady history journal.handlers)
    ⟨0, rfl, rfl⟩ (fun event ready => ready.after event) history

/-! ### The run -/

/-- The identifiers that setting the run returns along a history. -/
def Journal.returned (journal : Journal) : List Event → List Text
  | [] => []
  | .setRunId fresh given :: rest =>
      (journal.setRunId fresh given).1 :: (journal.setRunId fresh given).2.returned rest
  | event :: rest => (journal.after event).returned rest

theorem runId_run (history : List Event) (journal : Journal) :
    (history.foldl Journal.after journal).runId =
      (journal.returned history).getLast?.getD journal.runId := by
  induction history generalizing journal with
  | nil => rfl
  | cons event rest ih =>
      rw [List.foldl_cons, ih]
      cases event with
      | setRunId fresh given =>
          rw [Journal.returned, List.getLast?_cons, Option.getD_some]
          rfl
      | configure choice => rfl
      | addHandler => rfl
      | enter script => rfl
      | leave => rfl
      | log clock name level message => rfl

/-! ### The script -/

/-- Events among which every script that starts also ends, and none ends that started before them. -/
inductive Balanced : List Event → Prop
  | nil : Balanced []
  | other {event : Event} {rest : List Event} (flat : event.nests = false) :
      Balanced rest → Balanced (event :: rest)
  | scope {script : Text} {inside rest : List Event} :
      Balanced inside → Balanced rest → Balanced (.enter script :: (inside ++ .leave :: rest))

/-- The script that is being processed after a history: its start is behind, its end is not. -/
def Innermost (history : List Event) (script : Text) : Prop :=
  ∃ before inside, history = before ++ .enter script :: inside ∧ Balanced inside

theorem Balanced.append {first second : List Event} (balanced : Balanced first)
    (next : Balanced second) : Balanced (first ++ second) := by
  induction balanced with
  | nil => exact next
  | other flat _ ih => exact .other flat ih
  | scope inside _ _ ih =>
      rw [List.cons_append, List.append_assoc, List.cons_append]
      exact .scope inside ih

theorem scripts_after_flat {event : Event} (flat : event.nests = false) (journal : Journal) :
    (journal.after event).scripts = journal.scripts := by
  cases event with
  | enter script => cases flat
  | leave => cases flat
  | configure choice => rfl
  | addHandler => rfl
  | setRunId fresh given => rfl
  | log clock name level message => rfl

theorem Balanced.scripts_run {events : List Event} (balanced : Balanced events) (journal : Journal) :
    (events.foldl Journal.after journal).scripts = journal.scripts := by
  induction balanced generalizing journal with
  | nil => rfl
  | other flat _ ih =>
      rw [List.foldl_cons, ih, scripts_after_flat flat]
  | @scope script inside rest _ _ ihInside ihRest =>
      have entered := ihInside (journal.enter script)
      rw [List.foldl_cons, List.foldl_append, List.foldl_cons, ihRest]
      change (List.foldl Journal.after (journal.enter script) inside).scripts.drop 1 = journal.scripts
      rw [entered]
      rfl

theorem Innermost.script_eq {history : List Event} {script : Text}
    (innermost : Innermost history script) : (journalAfter history).script = script := by
  obtain ⟨before, inside, split, balanced⟩ := innermost
  rw [journalAfter, split, List.foldl_append, List.foldl_cons, Journal.script, balanced.scripts_run]
  rfl

/-- The scripts that are open after a history, innermost first, as their starts nest in it. -/
def Nested (history : List Event) : List Text → Prop
  | [] => True
  | script :: outer =>
      ∃ before inside, history = before ++ .enter script :: inside ∧ Balanced inside ∧
        Nested before outer

theorem Nested.append {history more : List Event} {scripts : List Text}
    (nested : Nested history scripts) (balanced : Balanced more) :
    Nested (history ++ more) scripts := by
  cases scripts with
  | nil => trivial
  | cons script outer =>
      obtain ⟨before, inside, rfl, inner, around⟩ := nested
      refine ⟨before, inside ++ more, ?_, inner.append balanced, around⟩
      rw [List.append_assoc, List.cons_append]

/-- Ending the innermost script leaves the scripts around it open: what was inside is balanced. -/
theorem Nested.leave {history : List Event} {scripts : List Text} (nested : Nested history scripts) :
    Nested (history ++ [.leave]) (scripts.drop 1) := by
  cases scripts with
  | nil => trivial
  | cons script outer =>
      obtain ⟨before, inside, rfl, inner, around⟩ := nested
      rw [List.append_assoc, List.cons_append]
      exact around.append (.scope inner .nil)

theorem Nested.after {history : List Event} {journal : Journal}
    (nested : Nested history journal.scripts) (event : Event) :
    Nested (history ++ [event]) (journal.after event).scripts := by
  cases event with
  | enter script => exact ⟨history, [], rfl, .nil, nested⟩
  | leave => exact nested.leave
  | configure choice => exact nested.append (.other rfl .nil)
  | addHandler => exact nested.append (.other rfl .nil)
  | setRunId fresh given => exact nested.append (.other rfl .nil)
  | log clock name level message => exact nested.append (.other rfl .nil)

theorem innermost_or_outside (history : List Event) :
    Innermost history (journalAfter history).script ∨ (journalAfter history).scripts = [] := by
  have nested := journalAfter_invariant (motive := fun history journal => Nested history journal.scripts)
    trivial (fun event nested => nested.after event) history
  cases scripts : (journalAfter history).scripts with
  | nil => exact .inr rfl
  | cons script outer =>
      rw [scripts] at nested
      obtain ⟨before, inside, split, balanced, _⟩ := nested
      rw [Journal.script, scripts]
      exact .inl ⟨before, inside, split, balanced⟩

/-! ### What is written -/

def structuredLine (clock runId script logger : Text) (level : Int) (message : Text) : Text :=
  clock ++ " | ".toList ++ levelName level ++ " | run_id=".toList ++ runId ++
    " | script=".toList ++ script ++ " | ".toList ++ logger ++ " | ".toList ++ message ++ ['\n']

/-- What a message comes to at a handler: a line with the run and the script, or the bare message. -/
def Journal.lineBy (journal : Journal) (clock logger : Text) (level : Int) (message : Text)
    (handler : Handler) : Text :=
  if handler = .ready then
    structuredLine clock journal.runId journal.script logger level message
  else message ++ ['\n']

/-- What is written for a message. With no handler, the bare message from `warning` up. -/
def Journal.entry (journal : Journal) (clock name : Text) (level : Int) (message : Text) : Text :=
  if 0 < level ∧ journal.level ≤ level then
    if journal.handlers = [] then if warning ≤ level then message ++ ['\n'] else []
    else
      journal.handlers.flatMap
        (journal.lineBy clock (if name = [] then "root".toList else name) level message)
  else []

theorem HandlersReady.ready_or_plain {history : List Event} {handlers : List Handler}
    (ready : HandlersReady history handlers) {handler : Handler} (member : handler ∈ handlers) :
    handler = .ready ∨ handler = .plain := by
  obtain ⟨configured, rfl, _⟩ := ready
  rcases List.mem_append.mp member with before | since
  · exact .inl (List.eq_of_mem_replicate before)
  · exact .inr (List.eq_of_mem_replicate since)

/-- No handler is ever asked for fields that it does not have. -/
theorem line_eq_lineBy {journal : Journal} {handler : Handler}
    (known : handler = .ready ∨ handler = .plain) (clock logger : Text) (level : Int)
    (message : Text) :
    handler.line? clock journal.runId { level, script := journal.script, logger, message } =
      some (journal.lineBy clock logger level message handler) := by
  rcases known with rfl | rfl
  · simp [Handler.line?, Handler.ready, Journal.lineBy, structuredLine, Text.joinWith]
  · rfl

theorem HandlersReady.log_eq_entry {history : List Event} {journal : Journal}
    (ready : HandlersReady history journal.handlers) (clock name : Text) (level : Int)
    (message : Text) : journal.log clock name level message = journal.entry clock name level message := by
  have lines : ∀ logger, journal.handlers.flatMap (fun handler =>
        (handler.line? clock journal.runId
          { level, script := journal.script, logger, message }).getD []) =
      journal.handlers.flatMap (journal.lineBy clock logger level message) := by
    intro logger
    rw [List.flatMap_def, List.flatMap_def]
    apply congrArg List.flatten
    apply List.map_congr_left
    intro handler member
    rw [line_eq_lineBy (ready.ready_or_plain member), Option.getD_some]
  rw [Journal.log, Journal.write, Journal.entry, lines]
  by_cases admitted : 0 < level ∧ journal.level ≤ level
  · have admits : journal.admits level = true := by simp [Journal.admits, admitted]
    simp [admits, admitted]
  · have refused : journal.admits level = false := by simpa [Journal.admits] using admitted
    simp [refused, admitted]

/-- A journal that is ready for every message: its handlers are, and its run and its script are what
the history says. -/
structure Prepared (history : List Event) (journal : Journal) : Prop where
  handlers : HandlersReady history journal.handlers
  runId : journal.runId = (({} : Journal).returned history).getLast?.getD ['-']
  script : ∀ script, Innermost history script → journal.script = script
  outside : (∀ script, ¬ Innermost history script) → journal.script = noScript
  written : ∀ clock name level message,
    journal.log clock name level message = journal.entry clock name level message

theorem journalAfter_prepared (history : List Event) : Prepared history (journalAfter history) where
  handlers := handlersReady history
  runId := runId_run history {}
  script := fun _ innermost => innermost.script_eq
  outside := by
    intro none
    rcases innermost_or_outside history with innermost | outside
    · exact absurd innermost (none _)
    · rw [Journal.script, outside]
      rfl
  written := (handlersReady history).log_eq_entry

end ScriptDocs.Log
