import Mathlib.Data.List.Forall2
import ScriptDocs.Proofs.Script

namespace ScriptDocs.Script

open Text (OneLine)

/-!
A cursor hands out every line once. Whatever is asked of it, and in whatever order, a request takes the
lines that come next and no others: one line with its number, or the lines up to one that ends in the
terminator. The lines are the segments between the line feeds of a text, which they give back.
-/

/-- What can be asked of a cursor. -/
inductive Request where
  | next
  | continuation (terminator : Text)
  deriving DecidableEq, Repr

inductive Reply where
  | line (number : Nat) (text : Text)
  | ended
  | joined (text : Text)
  deriving DecidableEq, Repr

def Reply.text : Reply → Text
  | .line _ text => text
  | .ended => []
  | .joined text => text

namespace Cursor

def reply (cursor : Cursor) : Request → Reply × Cursor
  | .next =>
      match cursor.next with
      | (some (number, text), after) => (.line number text, after)
      | (none, after) => (.ended, after)
  | .continuation terminator =>
      let (text, after) := cursor.continuation terminator
      (.joined text, after)

/-- The replies to requests that are made one after the other, and the cursor after them. -/
def replies (cursor : Cursor) : List Request → List Reply × Cursor
  | [] => ([], cursor)
  | request :: requests =>
      let (first, after) := cursor.reply request
      let (others, last) := after.replies requests
      (first :: others, last)

/-- The numbers of the lines that each of the requests takes. -/
def numbersTaken (cursor : Cursor) : List Request → List (List Nat)
  | [] => []
  | request :: requests =>
      let after := (cursor.reply request).2
      List.range' (cursor.lineNumber + 1) (after.lineNumber - cursor.lineNumber) ::
        after.numbersTaken requests

end Cursor

/-- The lines after line `start` up to line `stop`. -/
def linesBetween (lines : List Text) (start stop : Nat) : List Text :=
  (lines.take stop).drop start

/-- What a request takes when the lines up to `start` are gone: the lines from there up to `stop`. -/
inductive Takes (lines : List Text) (start : Nat) : Request → Nat → Reply → Prop where
  | line {text : Text} (found : lines[start]? = some text) :
      Takes lines start .next (start + 1) (.line (start + 1) text)
  | ended (gone : start = lines.length) : Takes lines start .next start .ended
  | closed {terminator closing : Text} {last : Nat} (ahead : start ≤ last)
      (quiet : ∀ line ∈ linesBetween lines start last, ¬ terminator <:+ line)
      (found : lines[last]? = some closing) (closes : terminator <:+ closing) :
      Takes lines start (.continuation terminator) (last + 1)
        (.joined (linesBetween lines start (last + 1)).flatten)
  | unclosed {terminator : Text} (within : start ≤ lines.length)
      (quiet : ∀ line ∈ lines.drop start, ¬ terminator <:+ line) :
      Takes lines start (.continuation terminator) lines.length (.joined (lines.drop start).flatten)

/-- What requests take one after the other: each starts where the one before it stopped. -/
inductive TakesAll (lines : List Text) : Nat → List Request → Nat → List Reply → Prop where
  | done (start : Nat) : TakesAll lines start [] start []
  | more {start middle stop : Nat} {request : Request} {requests : List Request} {reply : Reply}
      {replies : List Reply} (first : Takes lines start request middle reply)
      (others : TakesAll lines middle requests stop replies) :
      TakesAll lines start (request :: requests) stop (reply :: replies)

/-- A cursor that stands among some lines. -/
structure Cursor.Among (cursor : Cursor) (lines : List Text) : Prop where
  within : cursor.lineNumber ≤ lines.length
  remaining : cursor.remaining = lines.drop cursor.lineNumber

/-! ### Ranges of lines -/

section Ranges

variable {lines : List Text} {start middle stop : Nat}

theorem linesBetween_append (before : start ≤ middle) (after : middle ≤ stop) :
    linesBetween lines start middle ++ linesBetween lines middle stop = linesBetween lines start stop := by
  simp only [linesBetween, List.drop_take]
  obtain ⟨first, rfl⟩ := Nat.exists_eq_add_of_le before
  obtain ⟨second, rfl⟩ := Nat.exists_eq_add_of_le after
  have firstLength : start + first - start = first := by omega
  have secondLength : start + first + second - (start + first) = second := by omega
  have wholeLength : start + first + second - start = first + second := by omega
  rw [firstLength, secondLength, wholeLength, List.take_add, List.drop_drop]

theorem linesBetween_self : linesBetween lines start start = [] := by
  simp [linesBetween]

theorem linesBetween_one {line : Text} (found : lines[start]? = some line) :
    linesBetween lines start (start + 1) = [line] := by
  rw [linesBetween, List.take_add_one, found, Option.toList_some, List.drop_append]
  have bound := (List.getElem?_eq_some_iff.mp found).1
  simp [Nat.min_eq_left (Nat.le_of_lt bound)]

theorem linesBetween_length : linesBetween lines start lines.length = lines.drop start := by
  rw [linesBetween, List.take_length]

theorem linesBetween_of_drop {taken left : List Text} (split : lines.drop start = taken ++ left) :
    linesBetween lines start (start + taken.length) = taken := by
  rw [linesBetween, List.drop_take, split]
  simp

theorem drop_of_drop {taken left : List Text} (split : lines.drop start = taken ++ left) :
    lines.drop (start + taken.length) = left := by
  rw [← List.drop_drop, split, List.drop_left]

end Ranges

/-! ### One request -/

/-- Either a line ends in the terminator and the first that does is the last one taken, or all are. -/
theorem splitAfter_cases (terminator : Text) (lines : List Text) :
    (∃ quiet closing left, lines = quiet ++ closing :: left ∧
        (∀ line ∈ quiet, ¬ terminator <:+ line) ∧ terminator <:+ closing ∧
        splitAfter terminator lines = (quiet ++ [closing], left)) ∨
      (∀ line ∈ lines, ¬ terminator <:+ line) ∧ splitAfter terminator lines = (lines, []) := by
  induction lines with
  | nil => exact .inr ⟨by simp, rfl⟩
  | cons line lines ih =>
      rw [splitAfter]
      by_cases ends : terminator <:+ line
      · rw [if_pos (List.isSuffixOf_iff_suffix.mpr ends)]
        exact .inl ⟨[], line, lines, rfl, by simp, ends, rfl⟩
      · rw [if_neg (fun suffix => ends (List.isSuffixOf_iff_suffix.mp suffix))]
        rcases ih with ⟨quiet, closing, left, whole, unended, closes, split⟩ | ⟨unended, split⟩
        · refine .inl ⟨line :: quiet, closing, left, by rw [whole]; rfl, ?_, closes, by rw [split]; rfl⟩
          exact List.forall_mem_cons.mpr ⟨ends, unended⟩
        · exact .inr ⟨List.forall_mem_cons.mpr ⟨ends, unended⟩, by rw [split]⟩

section Request

variable {lines : List Text} {cursor : Cursor}

theorem Cursor.Among.next (among : cursor.Among lines) :
    Takes lines cursor.lineNumber .next (cursor.reply .next).2.lineNumber (cursor.reply .next).1 ∧
      (cursor.reply .next).2.Among lines := by
  cases left : cursor.remaining with
  | nil =>
      have replied : cursor.reply .next = (.ended, cursor) := by
        simp only [Cursor.reply, Cursor.next, left]
      have gone : cursor.lineNumber = lines.length := by
        have dropped := among.remaining.symm.trans left
        have within := among.within
        rw [List.drop_eq_nil_iff] at dropped
        omega
      rw [replied]
      exact ⟨.ended gone, among⟩
  | cons line rest =>
      have replied : cursor.reply .next =
          (.line (cursor.lineNumber + 1) line, ⟨cursor.lineNumber + 1, rest⟩) := by
        simp only [Cursor.reply, Cursor.next, left]
      have dropped : lines.drop cursor.lineNumber = [line] ++ rest := among.remaining.symm.trans left
      have found : lines[cursor.lineNumber]? = some line := by
        rw [← List.head?_drop, dropped]
        rfl
      rw [replied]
      exact ⟨.line found, (List.getElem?_eq_some_iff.mp found).1, (drop_of_drop dropped).symm⟩

theorem Cursor.Among.continuation (among : cursor.Among lines) (terminator : Text) :
    Takes lines cursor.lineNumber (.continuation terminator)
        (cursor.reply (.continuation terminator)).2.lineNumber
        (cursor.reply (.continuation terminator)).1 ∧
      (cursor.reply (.continuation terminator)).2.Among lines := by
  have within := among.within
  have ahead := among.remaining
  rcases splitAfter_cases terminator cursor.remaining with
    ⟨quiet, closing, left, whole, unended, closes, split⟩ | ⟨unended, split⟩
  · have replied : cursor.reply (.continuation terminator) =
        (.joined (quiet ++ [closing]).flatten, ⟨cursor.lineNumber + quiet.length + 1, left⟩) := by
      simp only [Cursor.reply, Cursor.continuation, split, List.length_append, List.length_singleton,
        Nat.add_assoc]
    have atQuiet : lines.drop cursor.lineNumber = quiet ++ closing :: left := ahead.symm.trans whole
    have atClosing : lines.drop cursor.lineNumber = (quiet ++ [closing]) ++ left := by
      rw [atQuiet, List.append_assoc]
      rfl
    have found : lines[cursor.lineNumber + quiet.length]? = some closing := by
      rw [← List.head?_drop, drop_of_drop atQuiet]
      rfl
    have taken := linesBetween_of_drop atClosing
    have remaining := drop_of_drop atClosing
    rw [List.length_append, List.length_singleton, ← Nat.add_assoc] at taken remaining
    rw [replied, ← taken]
    refine ⟨.closed (by omega) ?_ found closes, (List.getElem?_eq_some_iff.mp found).1, remaining.symm⟩
    rw [linesBetween_of_drop atQuiet]
    exact unended
  · have replied : cursor.reply (.continuation terminator) =
        (.joined (lines.drop cursor.lineNumber).flatten, ⟨lines.length, []⟩) := by
      have length : cursor.lineNumber + cursor.remaining.length = lines.length := by
        rw [ahead, List.length_drop]
        omega
      simp only [Cursor.reply, Cursor.continuation, split, length, ← ahead]
    rw [replied]
    rw [ahead] at unended
    exact ⟨.unclosed within unended, Nat.le_refl _, by rw [List.drop_length]⟩

theorem Cursor.Among.reply (among : cursor.Among lines) (request : Request) :
    Takes lines cursor.lineNumber request (cursor.reply request).2.lineNumber (cursor.reply request).1 ∧
      (cursor.reply request).2.Among lines := by
  cases request with
  | next => exact among.next
  | continuation terminator => exact among.continuation terminator

end Request

theorem Takes.le {lines : List Text} {start stop : Nat} {request : Request} {reply : Reply}
    (takes : Takes lines start request stop reply) : start ≤ stop := by
  cases takes with
  | line found => omega
  | ended gone => omega
  | closed ahead quiet found closes => omega
  | unclosed within quiet => exact within

theorem Takes.text {lines : List Text} {start stop : Nat} {request : Request} {reply : Reply}
    (takes : Takes lines start request stop reply) :
    reply.text = (linesBetween lines start stop).flatten := by
  cases takes with
  | line found => rw [linesBetween_one found, List.flatten_singleton]; rfl
  | ended gone => rw [linesBetween_self]; rfl
  | closed ahead quiet found closes => rfl
  | unclosed within quiet => rw [linesBetween_length]; rfl

/-! ### Requests in a row -/

section Requests

variable {lines : List Text} {start stop : Nat} {asked : List Request} {given : List Reply}

theorem TakesAll.le (takes : TakesAll lines start asked stop given) : start ≤ stop := by
  induction takes with
  | done start => exact Nat.le_refl start
  | more first others ih => exact Nat.le_trans first.le ih

theorem TakesAll.text (takes : TakesAll lines start asked stop given) :
    (given.map Reply.text).flatten = (linesBetween lines start stop).flatten := by
  induction takes with
  | done start => rw [linesBetween_self]; rfl
  | more first others ih =>
      rw [List.map_cons, List.flatten_cons, ih, first.text, ← List.flatten_append,
        linesBetween_append first.le others.le]

theorem Cursor.Among.replies {cursor : Cursor} (among : cursor.Among lines) (requests : List Request) :
    TakesAll lines cursor.lineNumber requests (cursor.replies requests).2.lineNumber
        (cursor.replies requests).1 ∧
      (cursor.replies requests).2.Among lines := by
  induction requests generalizing cursor with
  | nil => exact ⟨.done cursor.lineNumber, among⟩
  | cons request requests ih =>
      obtain ⟨first, after⟩ := among.reply request
      obtain ⟨others, last⟩ := ih after
      exact ⟨.more first others, last⟩

theorem Cursor.replies_append (cursor : Cursor) (requests more : List Request) :
    (cursor.replies (requests ++ more)).2 = ((cursor.replies requests).2.replies more).2 := by
  induction requests generalizing cursor with
  | nil => rfl
  | cons request requests ih => exact ih _

theorem Cursor.Among.numbersTaken {cursor : Cursor} (among : cursor.Among lines)
    (requests : List Request) :
    (cursor.numbersTaken requests).flatten = List.range' (cursor.lineNumber + 1)
      ((cursor.replies requests).2.lineNumber - cursor.lineNumber) := by
  induction requests generalizing cursor with
  | nil => simp [Cursor.numbersTaken, Cursor.replies]
  | cons request requests ih =>
      obtain ⟨first, after⟩ := among.reply request
      have forward := first.le
      have onward := (after.replies requests).1.le
      have whole : (cursor.replies (request :: requests)).2 =
          ((cursor.reply request).2.replies requests).2 := rfl
      obtain ⟨taken, middle⟩ := Nat.exists_eq_add_of_le forward
      obtain ⟨later, last⟩ := Nat.exists_eq_add_of_le onward
      have counts : cursor.lineNumber + taken + later - cursor.lineNumber = taken + later := by omega
      rw [Cursor.numbersTaken, List.flatten_cons, ih after, whole, last, middle, Nat.add_sub_cancel_left,
        Nat.add_sub_cancel_left, counts, ← List.range'_append_1]
      simp only [Nat.add_right_comm]

end Requests

theorem Cursor.among_ofText (text : Text) : (Cursor.ofText text).Among (linesOf text) :=
  ⟨Nat.zero_le _, rfl⟩

/-! ### Lines and text -/

/-- The segments of a text between its line feeds. -/
structure Segments (text : Text) (segments : List Text) : Prop where
  filled : segments ≠ []
  oneLine : ∀ segment ∈ segments, OneLine segment
  joined : Text.joinWith ['\n'] segments = text

/-- The segments that count as lines: an empty last one does not. -/
def Kept (segments kept : List Text) : Prop :=
  segments = kept ++ [[]] ∨ segments = kept ∧ kept.getLast? ≠ some []

/-- A line is its segment without one carriage return at the end. -/
def LineOf (segment line : Text) : Prop :=
  segment = line ++ ['\r'] ∨ segment = line ∧ line.getLast? ≠ some '\r'

theorem segments_iff {text : Text} {segments : List Text} :
    Segments text segments ↔ segments = Text.segments '\n' text := by
  constructor
  · intro apart
    rw [← apart.joined, Text.segments_joinWith apart.filled apart.oneLine]
  · intro same
    rw [same]
    refine ⟨Text.segmentsBy_ne_nil _ text, fun segment member newline => ?_,
      Text.joinWith_segments '\n' text⟩
    have apart := (Text.mem_segmentsBy member '\n' newline).2
    simp at apart

theorem dropFinalEmpty_kept {segments : List Text} (filled : segments ≠ []) :
    Kept segments (dropFinalEmpty segments) := by
  rcases List.eq_nil_or_concat segments with empty | ⟨front, last, whole⟩
  · contradiction
  · rw [List.concat_eq_append] at whole
    rw [whole, dropFinalEmpty_append front (by simp), dropFinalEmpty]
    cases last with
    | nil => exact .inl (by simp)
    | cons first rest => exact .inr ⟨rfl, by simp⟩

theorem dropReturn_lineOf (segment : Text) : LineOf segment (dropReturn segment) := by
  rcases List.eq_nil_or_concat segment with rfl | ⟨front, last, rfl⟩
  · exact .inr ⟨rfl, by decide⟩
  · rw [List.concat_eq_append]
    by_cases ended : last = '\r'
    · exact .inl (by simp [dropReturn, ended])
    · have kept : (front ++ [last]).getLast? ≠ some '\r' := by simpa using ended
      rw [dropReturn_id kept]
      exact .inr ⟨rfl, kept⟩

theorem linesOf_of_noReturn {text : Text} (noReturn : '\r' ∉ text) :
    linesOf text = dropFinalEmpty (Text.segments '\n' text) := by
  have kept : ∀ segment ∈ dropFinalEmpty (Text.segments '\n' text), dropReturn segment = segment := by
    intro segment member
    apply dropReturn_id
    intro ended
    have inside := dropFinalEmpty_subset _ member
    exact noReturn (Text.mem_segmentsBy inside '\r' (List.mem_of_getLast? ended)).1
  rw [linesOf, List.map_congr_left kept, List.map_id']

theorem text_of_linesOf {text : Text} (noReturn : '\r' ∉ text) :
    text = Text.joinWith ['\n'] (linesOf text) ++ if text.getLast? = some '\n' then ['\n'] else [] := by
  have joined := Text.joinWith_segments '\n' text
  have filled : Text.segments '\n' text ≠ [] := Text.segmentsBy_ne_nil _ text
  have kept := dropFinalEmpty_kept filled
  rw [← linesOf_of_noReturn noReturn] at kept
  rcases kept with ended | ⟨same, last⟩
  · rw [ended] at joined
    by_cases none : linesOf text = []
    · have empty : text = [] := by
        rw [none] at joined
        exact joined.symm
      simp [empty, linesOf, Text.segments, Text.segmentsBy, dropFinalEmpty, Text.joinWith]
    · rw [Text.joinWith_concat _ _ none, List.append_nil] at joined
      have newline : text.getLast? = some '\n' := by
        rw [← joined]
        exact List.getLast?_concat
      rw [if_pos newline, joined]
  · rw [same] at joined
    have noNewline : text.getLast? ≠ some '\n' := by
      intro newline
      obtain ⟨front, whole⟩ := List.getLast?_eq_some_iff.mp newline
      have split : Text.segments '\n' text = Text.segments '\n' front ++ [[]] := by
        rw [whole]
        exact Text.segmentsBy_append (by decide) front []
      rw [← same, split] at last
      simp at last
    rw [if_neg noNewline, List.append_nil, joined]

/-- Requests to a cursor, however they follow one another, take the lines of the text from the first one
on, each line once and in order, and give them back. -/
theorem cursor_handsOut (text : Text) (requests : List Request) :
    TakesAll (linesOf text) 0 requests ((Cursor.ofText text).replies requests).2.lineNumber
      ((Cursor.ofText text).replies requests).1 ∧
    ((Cursor.ofText text).numbersTaken requests).flatten =
      List.range' 1 ((Cursor.ofText text).replies requests).2.lineNumber ∧
    (∀ more, ((Cursor.ofText text).replies requests).2.lineNumber ≤
      ((Cursor.ofText text).replies (requests ++ more)).2.lineNumber) ∧
    ((Cursor.ofText text).replies requests).2.lineNumber ≤ (linesOf text).length ∧
    ((((Cursor.ofText text).replies requests).1.map Reply.text).flatten =
      ((linesOf text).take ((Cursor.ofText text).replies requests).2.lineNumber).flatten) ∧
    (∃ segments kept, (∀ other, Segments text other ↔ other = segments) ∧ Kept segments kept ∧
      List.Forall₂ LineOf kept (linesOf text)) ∧
    ('\r' ∉ text → text = Text.joinWith ['\n'] (linesOf text) ++
      if text.getLast? = some '\n' then ['\n'] else []) := by
  obtain ⟨takes, after⟩ := (Cursor.among_ofText text).replies requests
  have filled : Text.segments '\n' text ≠ [] := Text.segmentsBy_ne_nil _ text
  refine ⟨takes, ?_, fun more => ?_, after.within, takes.text, ?_, text_of_linesOf⟩
  · exact (Cursor.among_ofText text).numbersTaken requests
  · rw [Cursor.replies_append]
    exact (after.replies more).1.le
  · refine ⟨_, _, fun other => segments_iff, dropFinalEmpty_kept filled, ?_⟩
    rw [linesOf, List.forall₂_map_right_iff, List.forall₂_same]
    exact fun segment _ => dropReturn_lineOf segment

/-- A script with a value over three lines and an empty line behind it. -/
def quotedText : Text :=
  "a=\"b\nc\nd\"\n\ne\n".toList

def quotedRequests : List Request :=
  [.next, .continuation ['"'], .continuation [], .next, .next]

theorem cursor_handsOut_quoted :
    '\r' ∉ quotedText ∧
    ((Cursor.ofText quotedText).replies quotedRequests).1 =
      [.line 1 "a=\"b".toList, .joined "cd\"".toList, .joined [], .line 5 "e".toList, .ended] ∧
    ((Cursor.ofText quotedText).numbersTaken quotedRequests).flatten = [1, 2, 3, 4, 5] ∧
    quotedText = Text.joinWith ['\n'] (linesOf quotedText) ++ ['\n'] := by
  have noReturn : '\r' ∉ quotedText := by decide
  obtain ⟨_, numbers, _, _, _, _, recovered⟩ := cursor_handsOut quotedText quotedRequests
  have given : (Cursor.ofText quotedText).replies quotedRequests =
      ([.line 1 "a=\"b".toList, .joined "cd\"".toList, .joined [], .line 5 "e".toList, .ended], ⟨5, []⟩) := by
    decide
  have newline : quotedText.getLast? = some '\n' := by decide
  refine ⟨noReturn, by rw [given], by rw [numbers, given]; rfl, ?_⟩
  have whole := recovered noReturn
  rwa [if_pos newline] at whole

end ScriptDocs.Script
