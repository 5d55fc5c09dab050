import ScriptDocs.Proofs.Json

/-!
How deep values are, and the room that writing and reading them takes. A value that is no deeper than
there is room is written whole and its text is read back; where writing is interrupted, it has come to a
level too many or to an integer with too many digits.
-/

namespace ScriptDocs.Json

mutual

/-- The most arrays and objects inside one another, empty ones included. -/
def Value.depth : Value → Nat
  | .array items => depthOfItems items + 1
  | .object fields => depthOfFields fields + 1
  | _ => 0

def depthOfItems : List Value → Nat
  | [] => 0
  | item :: items => max item.depth (depthOfItems items)

def depthOfFields : List (Text × Value) → Nat
  | [] => 0
  | (_, value) :: fields => max value.depth (depthOfFields fields)

end

theorem depthOfItems_le_iff {items : List Value} {n : Nat} :
    depthOfItems items ≤ n ↔ ∀ item ∈ items, item.depth ≤ n := by
  induction items with
  | nil => simp [depthOfItems]
  | cons item items ih => rw [depthOfItems, Nat.max_le, ih, List.forall_mem_cons]

theorem depthOfFields_le_iff {fields : List (Text × Value)} {n : Nat} :
    depthOfFields fields ≤ n ↔ ∀ field ∈ fields, field.2.depth ≤ n := by
  induction fields with
  | nil => simp [depthOfFields]
  | cons field fields ih => rw [depthOfFields, Nat.max_le, ih, List.forall_mem_cons]

theorem depth_array_le_iff {items : List Value} {room : Nat} :
    (Value.array items).depth ≤ room ↔ ∃ less, room = less + 1 ∧ ∀ item ∈ items, item.depth ≤ less := by
  rw [Value.depth]
  constructor
  · intro within
    refine ⟨room - 1, by omega, depthOfItems_le_iff.mp (by omega)⟩
  · rintro ⟨less, rfl, within⟩
    exact Nat.succ_le_succ (depthOfItems_le_iff.mpr within)

theorem depth_object_le_iff {fields : List (Text × Value)} {room : Nat} :
    (Value.object fields).depth ≤ room ↔
      ∃ less, room = less + 1 ∧ ∀ field ∈ fields, field.2.depth ≤ less := by
  rw [Value.depth]
  constructor
  · intro within
    refine ⟨room - 1, by omega, depthOfFields_le_iff.mp (by omega)⟩
  · rintro ⟨less, rfl, within⟩
    exact Nat.succ_le_succ (depthOfFields_le_iff.mpr within)

/-! ### Writing -/

namespace Written

variable {first next : Written}

theorem whole_andThen : (first.andThen next).2 = none ↔ first.2 = none ∧ next.2 = none := by
  obtain ⟨text, _ | interruption⟩ := first <;> simp [andThen]

theorem text_andThen (whole : first.2 = none) : (first.andThen next).1 = first.1 ++ next.1 := by
  obtain ⟨text, interruption⟩ := first
  cases whole
  rfl

end Written

section Writing

variable {room : Nat} {indent : Option Int} {depth : Nat}

theorem putItems_nil {lead : Text} : putItems room indent depth lead [] = ([], none) :=
  rfl

theorem putItems_cons {lead : Text} (item : Value) (items : List Value) :
    putItems room indent depth lead (item :: items) =
      Written.andThen (if isOverlong item then [] else lead, none)
        ((put room indent depth item).andThen
          (putItems room indent depth (itemSeparator indent depth) items)) :=
  rfl

theorem putFields_nil {lead : Text} : putFields room indent depth lead [] = ([], none) :=
  rfl

theorem putFields_cons {lead : Text} (field : Text × Value) (fields : List (Text × Value)) :
    putFields room indent depth lead (field :: fields) =
      Written.andThen (lead ++ writeString field.1 ++ [':', ' '], none)
        ((put room indent depth field.2).andThen
          (putFields room indent depth (itemSeparator indent depth) fields)) :=
  rfl

theorem whole_putItems {lead : Text} {items : List Value} :
    (putItems room indent depth lead items).2 = none ↔
      ∀ item ∈ items, (put room indent depth item).2 = none := by
  induction items generalizing lead with
  | nil => simp [putItems_nil]
  | cons item items ih => simp [putItems_cons, Written.whole_andThen, ih]

theorem whole_putFields {lead : Text} {fields : List (Text × Value)} :
    (putFields room indent depth lead fields).2 = none ↔
      ∀ field ∈ fields, (put room indent depth field.2).2 = none := by
  induction fields generalizing lead with
  | nil => simp [putFields_nil]
  | cons field fields ih => simp [putFields_cons, Written.whole_andThen, ih]

theorem put_array_cons (item : Value) (items : List Value) :
    put (room + 1) indent depth (.array (item :: items)) =
      (putItems room indent (depth + 1) ('[' :: lineStart indent (depth + 1)) (item :: items)).andThen
        (lineStart indent depth ++ [']'], none) :=
  rfl

theorem put_object_cons (field : Text × Value) (fields : List (Text × Value)) :
    put (room + 1) indent depth (.object (field :: fields)) =
      (putFields room indent (depth + 1) ('\x7b' :: lineStart indent (depth + 1)) (field :: fields)).andThen
        (lineStart indent depth ++ ['\x7d'], none) :=
  rfl

theorem put_array_tooDeep (item : Value) (items : List Value) :
    put 0 indent depth (.array (item :: items)) = ([], some .tooDeep) :=
  rfl

theorem put_object_tooDeep (field : Text × Value) (fields : List (Text × Value)) :
    put 0 indent depth (.object (field :: fields)) = ([], some .tooDeep) :=
  rfl

theorem put_atom {value : Value} (noArray : ∀ items, value ≠ .array items)
    (noObject : ∀ fields, value ≠ .object fields) :
    put room indent depth value =
      if isOverlong value then ([], some .tooManyDigits) else (write indent depth value, none) := by
  cases value with
  | array items => exact absurd rfl (noArray items)
  | object fields => exact absurd rfl (noObject fields)
  | _ => rfl

theorem isOverlong_int {n : Int} : isOverlong (.int n) = false ↔ n.natAbs < 10 ^ digitLimit := by
  -- The limit is kept out of sight, so that the power is not worked out.
  have bound : ∀ limit m : Nat, decide (Nat.pow 10 limit ≤ m) = false ↔ m < 10 ^ limit := by
    intro limit m
    rw [decide_eq_false_iff_not]
    exact Nat.not_le
  exact bound digitLimit n.natAbs

theorem Exact.whole_put {value : Value} (exact : Exact value) (shallow : value.depth ≤ room) :
    (put room indent depth value).2 = none := by
  induction exact generalizing room depth with
  | null | bool | string => rfl
  | @int value short =>
      rw [put_atom (by simp) (by simp), if_neg (by simp [isOverlong_int.mpr short])]
  | @array items exact ih =>
      obtain ⟨less, rfl, within⟩ := depth_array_le_iff.mp shallow
      cases items with
      | nil => rfl
      | cons item items =>
          rw [put_array_cons, Written.whole_andThen, whole_putItems]
          exact ⟨fun item member => ih item member (within item member), rfl⟩
  | @object fields distinct exact ih =>
      obtain ⟨less, rfl, within⟩ := depth_object_le_iff.mp shallow
      cases fields with
      | nil => rfl
      | cons field fields =>
          rw [put_object_cons, Written.whole_andThen, whole_putFields]
          exact ⟨fun field member => ih field member (within field member), rfl⟩

theorem Value.treeInduction {motive : Value → Prop}
    (atom : ∀ value, (∀ items, value ≠ .array items) → (∀ fields, value ≠ .object fields) → motive value)
    (array : ∀ items, (∀ item ∈ items, motive item) → motive (.array items))
    (object : ∀ fields, (∀ field ∈ fields, motive field.2) → motive (.object fields)) (value : Value) :
    motive value := by
  refine @Value.rec motive (fun items => ∀ item ∈ items, motive item)
    (fun fields => ∀ field ∈ fields, motive field.2) (fun field => motive field.2)
    ?_ ?_ ?_ ?_ ?_ array object ?_ ?_ ?_ ?_ ?_ value
  · exact atom _ (by simp) (by simp)
  · exact fun _ => atom _ (by simp) (by simp)
  · exact fun _ => atom _ (by simp) (by simp)
  · exact fun _ => atom _ (by simp) (by simp)
  · exact fun _ => atom _ (by simp) (by simp)
  · simp
  · exact fun item items first rest => List.forall_mem_cons.mpr ⟨first, rest⟩
  · simp
  · exact fun field fields first rest => List.forall_mem_cons.mpr ⟨first, rest⟩
  · exact fun name value holds => holds

theorem not_isOverlong_of_whole {value : Value} (whole : (put room indent depth value).2 = none) :
    isOverlong value = false := by
  cases value with
  | int n =>
      cases overlong : isOverlong (.int n) with
      | false => rfl
      | true =>
          rw [put_atom (by simp) (by simp), if_pos overlong] at whole
          contradiction
  | _ => rfl

theorem putItems_cons_text {item : Value} (whole : (put room indent depth item).2 = none) (lead : Text)
    (items : List Value) :
    (putItems room indent depth lead (item :: items)).1 =
      lead ++ ((put room indent depth item).1 ++
        (putItems room indent depth (itemSeparator indent depth) items).1) := by
  rw [putItems_cons, not_isOverlong_of_whole whole, Written.text_andThen rfl, Written.text_andThen whole]
  rfl

theorem putFields_cons_text {name : Text} {value : Value} (whole : (put room indent depth value).2 = none)
    (lead : Text) (fields : List (Text × Value)) :
    (putFields room indent depth lead ((name, value) :: fields)).1 =
      lead ++ writeString name ++ [':', ' '] ++ ((put room indent depth value).1 ++
        (putFields room indent depth (itemSeparator indent depth) fields).1) := by
  rw [putFields_cons, Written.text_andThen rfl, Written.text_andThen whole]

theorem putItems_text {items : List Value} (whole : ∀ item ∈ items, (put room indent depth item).2 = none)
    (texts : ∀ item ∈ items, (put room indent depth item).1 = write indent depth item) :
    (putItems room indent depth (itemSeparator indent depth) items).1 = writeItems indent depth items := by
  induction items with
  | nil => rfl
  | cons item items ih =>
      rw [List.forall_mem_cons] at whole texts
      rw [putItems_cons_text whole.1, texts.1, ih whole.2 texts.2, writeItems, List.append_assoc]

theorem putFields_text {fields : List (Text × Value)}
    (whole : ∀ field ∈ fields, (put room indent depth field.2).2 = none)
    (texts : ∀ field ∈ fields, (put room indent depth field.2).1 = write indent depth field.2) :
    (putFields room indent depth (itemSeparator indent depth) fields).1 =
      writeFields indent depth fields := by
  induction fields with
  | nil => rfl
  | cons field fields ih =>
      rw [List.forall_mem_cons] at whole texts
      rw [putFields_cons_text whole.1, texts.1, ih whole.2 texts.2, writeFields]
      simp only [List.append_assoc]

/-- What is written without an interruption is the text of the value. -/
theorem put_text {value : Value} (whole : (put room indent depth value).2 = none) :
    (put room indent depth value).1 = write indent depth value := by
  induction value using Value.treeInduction generalizing room depth with
  | atom value noArray noObject =>
      have short := not_isOverlong_of_whole whole
      rw [put_atom noArray noObject, if_neg (by simp [short])]
  | array items ih =>
      cases items with
      | nil => rfl
      | cons item items =>
          cases room with
          | zero =>
              rw [put_array_tooDeep] at whole
              contradiction
          | succ room =>
              rw [put_array_cons, Written.whole_andThen, whole_putItems] at whole
              have texts := fun item member => ih item member (whole.1 item member)
              rw [put_array_cons, Written.text_andThen (whole_putItems.mpr whole.1),
                putItems_cons_text (whole.1 item (by simp)), texts item (by simp),
                putItems_text (fun item member => whole.1 item (by simp [member]))
                  (fun item member => texts item (by simp [member])), write]
              simp
  | object fields ih =>
      cases fields with
      | nil => rfl
      | cons field fields =>
          cases room with
          | zero =>
              rw [put_object_tooDeep] at whole
              contradiction
          | succ room =>
              rw [put_object_cons, Written.whole_andThen, whole_putFields] at whole
              have texts := fun field member => ih field member (whole.1 field member)
              rw [put_object_cons, Written.text_andThen (whole_putFields.mpr whole.1),
                putFields_cons_text (whole.1 field (by simp)), texts field (by simp),
                putFields_text (fun field member => whole.1 field (by simp [member]))
                  (fun field member => texts field (by simp [member])), write]
              simp

theorem dump_whole {value : Value} (whole : (dump indent value room).2 = none) :
    dump indent value room = (render indent value, none) :=
  Prod.ext (put_text whole) whole

theorem Exact.dump_eq {value : Value} (exact : Exact value) (shallow : value.depth ≤ room)
    (indent : Option Int) : dump indent value room = (render indent value, none) :=
  dump_whole (exact.whole_put shallow)

end Writing

/-! ### Reading -/

section Overflow

variable {room : Nat} {quoted : Bool} (position : Nat) (rest : Text)

theorem overflow?_nil : overflow? room quoted position [] = none :=
  rfl

theorem overflow?_quote :
    overflow? room quoted position ('"' :: rest) = overflow? room (!quoted) (position + 1) rest :=
  rfl

theorem overflow?_escape (c : Char) :
    overflow? room true position ('\\' :: c :: rest) = overflow? room true (position + 2) rest :=
  rfl

theorem overflow?_array :
    overflow? (room + 1) false position ('[' :: rest) = overflow? room false (position + 1) rest :=
  rfl

theorem overflow?_arrayEnd :
    overflow? room false position (']' :: rest) = overflow? (room + 1) false (position + 1) rest :=
  rfl

theorem overflow?_object :
    overflow? (room + 1) false position ('\x7b' :: rest) = overflow? room false (position + 1) rest :=
  rfl

theorem overflow?_objectEnd :
    overflow? room false position ('\x7d' :: rest) = overflow? (room + 1) false (position + 1) rest :=
  rfl

end Overflow

/-- A text that leaves as much room behind it as it found, and takes no more than that in between. -/
def Passes (room : Nat) (text : Text) : Prop :=
  ∀ position rest, overflow? room false position (text ++ rest) =
    overflow? room false (position + text.length) rest

namespace Passes

variable {room : Nat}

theorem nil : Passes room [] :=
  fun _ _ => rfl

theorem append {front back : Text} (first : Passes room front) (second : Passes room back) :
    Passes room (front ++ back) := by
  intro position rest
  rw [List.append_assoc, first, second, List.length_append, Nat.add_assoc]

/-- Whether a character neither opens nor closes anything. -/
def isPlain (c : Char) : Bool :=
  c != '\\' && c != '"' && c != '[' && c != ']' && c != '\x7b' && c != '\x7d'

theorem char {c : Char} (plain : isPlain c = true) : Passes room [c] := by
  intro position rest
  simp only [isPlain, Bool.and_eq_true, bne_iff_ne, ne_eq] at plain
  obtain ⟨⟨⟨⟨⟨noEscape, noQuote⟩, noOpening⟩, noClosing⟩, noBrace⟩, noEnd⟩ := plain
  rw [List.singleton_append, overflow?]
  · rfl
  all_goals simp [noEscape, noQuote, noOpening, noClosing, noBrace, noEnd]

theorem plain {text : Text} (plain : text.all isPlain = true) : Passes room text := by
  induction text with
  | nil => exact .nil
  | cons c text ih =>
      rw [List.all_cons, Bool.and_eq_true] at plain
      exact .append (.char plain.1) (ih plain.2)

theorem array {inner : Text} (inside : Passes room inner) : Passes (room + 1) ('[' :: inner ++ [']']) := by
  intro position rest
  rw [List.append_assoc, List.cons_append, overflow?_array, inside, List.singleton_append,
    overflow?_arrayEnd]
  simp [Nat.add_assoc, Nat.add_comm 1]

theorem object {inner : Text} (inside : Passes room inner) :
    Passes (room + 1) ('\x7b' :: inner ++ ['\x7d']) := by
  intro position rest
  rw [List.append_assoc, List.cons_append, overflow?_object, inside, List.singleton_append,
    overflow?_objectEnd]
  simp [Nat.add_assoc, Nat.add_comm 1]

theorem quoted_char {c : Char} (noQuote : c ≠ '"') (noEscape : c ≠ '\\') (position : Nat) (rest : Text) :
    overflow? room true position (c :: rest) = overflow? room true (position + 1) rest := by
  rw [overflow?.eq_def]
  split <;> simp_all

theorem quoted_plain {front : Text} (plain : front.all isPlain = true) (position : Nat) (rest : Text) :
    overflow? room true position (front ++ rest) = overflow? room true (position + front.length) rest := by
  induction front generalizing position with
  | nil => rfl
  | cons c front ih =>
      rw [List.all_cons, Bool.and_eq_true] at plain
      obtain ⟨first, later⟩ := plain
      simp only [isPlain, Bool.and_eq_true, bne_iff_ne, ne_eq] at first
      rw [List.cons_append, quoted_char first.1.1.1.1.2 first.1.1.1.1.1, ih later, List.length_cons,
        Nat.add_assoc, Nat.add_comm 1]

theorem quoted_escape (c : Char) (position : Nat) (rest : Text) :
    overflow? room true position (escape c ++ rest) =
      overflow? room true (position + (escape c).length) rest := by
  have digits : ∀ n < 32, (Text.hexFixed 4 n).all isPlain = true := by decide
  fun_cases escape c with
  | case8 c _ _ _ _ _ _ _ control =>
      rw [List.cons_append, List.cons_append, overflow?_escape, quoted_plain (digits _ control)]
      simp [Nat.add_assoc, Nat.add_comm 2]
  | case9 c noQuote noEscape => exact quoted_char noQuote noEscape position rest
  | _ => rfl

theorem quoted_escaped (text : Text) (position : Nat) (rest : Text) :
    overflow? room true position (text.flatMap escape ++ rest) =
      overflow? room true (position + (text.flatMap escape).length) rest := by
  induction text generalizing position with
  | nil => rfl
  | cons c text ih =>
      rw [List.flatMap_cons, List.append_assoc, quoted_escape, ih, List.length_append, Nat.add_assoc]

theorem string (text : Text) : Passes room (writeString text) := by
  intro position rest
  rw [writeString, List.append_assoc, List.cons_append, overflow?_quote, Bool.not_false, quoted_escaped,
    List.singleton_append, overflow?_quote, Bool.not_true]
  simp [Nat.add_assoc, Nat.add_comm 1]

theorem ofInt (n : Int) : Passes room (Text.ofInt n) := by
  have digits : ∀ n, (Text.ofNat n).all isPlain = true := by
    intro n
    rw [List.all_eq_true]
    intro c member
    have digit := Text.ofNat_isDigit n c member
    simp only [isPlain, Bool.and_eq_true, bne_iff_ne, ne_eq]
    refine ⟨⟨⟨⟨⟨?_, ?_⟩, ?_⟩, ?_⟩, ?_⟩, ?_⟩ <;> rintro rfl <;> exact absurd digit (by decide)
  cases n with
  | ofNat n => exact .plain (digits n)
  | negSucc n => exact .append (.char (by decide)) (.plain (digits (n + 1)))

theorem blank {text : Text} (blank : ∀ c ∈ text, isSpace c = true) : Passes room text := by
  apply plain
  rw [List.all_eq_true]
  intro c member
  have space := blank c member
  simp only [isSpace, Bool.or_eq_true, beq_iff_eq] at space
  rcases space with ((rfl | rfl) | rfl) | rfl <;> decide

theorem lineStart (indent : Option Int) (depth : Nat) : Passes room (Json.lineStart indent depth) :=
  .blank (lineStart_blank indent depth)

theorem itemSeparator (indent : Option Int) (depth : Nat) :
    Passes room (Json.itemSeparator indent depth) := by
  cases indent with
  | none => exact .plain (show [',', ' '].all isPlain = true by decide)
  | some width => exact .append (.char (by decide)) (.lineStart (some width) depth)

theorem colon : Passes room [':', ' '] :=
  .plain (by decide)

theorem writeItems {indent : Option Int} {depth : Nat} {items : List Value}
    (each : ∀ item ∈ items, Passes room (write indent depth item)) :
    Passes room (Json.writeItems indent depth items) := by
  induction items with
  | nil => exact .nil
  | cons item items ih =>
      rw [List.forall_mem_cons] at each
      exact ((itemSeparator indent depth).append each.1).append (ih each.2)

theorem writeFields {indent : Option Int} {depth : Nat} {fields : List (Text × Value)}
    (each : ∀ field ∈ fields, Passes room (write indent depth field.2)) :
    Passes room (Json.writeFields indent depth fields) := by
  induction fields with
  | nil => exact .nil
  | cons field fields ih =>
      rw [List.forall_mem_cons] at each
      exact ((((itemSeparator indent depth).append (string field.1)).append colon).append each.1).append
        (ih each.2)

end Passes

/-- The text of a value takes the room of its levels. -/
theorem Exact.passes {value : Value} (exact : Exact value) {room : Nat} (shallow : value.depth ≤ room)
    (indent : Option Int) (depth : Nat) : Passes room (write indent depth value) := by
  induction exact generalizing room depth with
  | null => exact .plain (show "null".toList.all Passes.isPlain = true by decide)
  | bool value =>
      cases value with
      | false => exact .plain (show "false".toList.all Passes.isPlain = true by decide)
      | true => exact .plain (show "true".toList.all Passes.isPlain = true by decide)
  | int short => exact .ofInt _
  | string value => exact .string value
  | @array items exact ih =>
      obtain ⟨less, rfl, within⟩ := depth_array_le_iff.mp shallow
      cases items with
      | nil => exact .array .nil
      | cons item items =>
          have each := fun item member => ih item member (within item member) (depth + 1)
          rw [List.forall_mem_cons] at each
          have inside := (((Passes.lineStart indent (depth + 1)).append each.1).append
            (.writeItems each.2)).append (.lineStart indent depth)
          simpa [write] using inside.array
  | @object fields distinct exact ih =>
      obtain ⟨less, rfl, within⟩ := depth_object_le_iff.mp shallow
      cases fields with
      | nil => exact .object .nil
      | cons field fields =>
          have each := fun field member => ih field member (within field member) (depth + 1)
          rw [List.forall_mem_cons] at each
          have inside := (((((Passes.lineStart indent (depth + 1)).append (.string field.1)).append
            .colon).append each.1).append (.writeFields each.2)).append (.lineStart indent depth)
          simpa [write] using inside.object

/-- With room for its levels, the text of a value is read as that value, whatever white space follows
it. -/
theorem Exact.load_render {value : Value} (exact : Exact value) {room : Nat} (shallow : value.depth ≤ room)
    (indent : Option Int) {after : Text} (blank : ∀ c ∈ after, isSpace c = true) :
    load (render indent value ++ after) room = .ok value := by
  have within := (exact.passes shallow indent 0).append (.blank blank) 0 []
  rw [List.append_nil] at within
  rw [load, render, within, overflow?_nil]
  exact parse_render exact indent blank

/-! ### Arrays without room -/

/-- So many arrays, each inside the one before it. -/
def nested : Nat → Value
  | 0 => .null
  | n + 1 => .array [nested n]

theorem exact_nested (n : Nat) : Exact (nested n) := by
  induction n with
  | zero => exact .null
  | succ n ih => exact .array (List.forall_mem_singleton.mpr ih)

theorem put_nested {room n : Nat} (more : room < n) (depth : Nat) :
    put room none depth (nested n) = (List.replicate room '[', some .tooDeep) := by
  induction room generalizing n depth with
  | zero =>
      obtain ⟨n, rfl⟩ := Nat.exists_eq_add_of_lt more
      rfl
  | succ room ih =>
      obtain ⟨n, rfl⟩ : ∃ less, n = less + 1 := ⟨n - 1, by omega⟩
      rw [nested, put_array_cons, putItems_cons, ih (by omega)]
      cases n with
      | zero => omega
      | succ n => rfl

theorem write_nested (n depth : Nat) : ∃ rest, write none depth (nested n) = List.replicate n '[' ++ rest := by
  induction n generalizing depth with
  | zero => exact ⟨_, rfl⟩
  | succ n ih =>
      obtain ⟨rest, inner⟩ := ih (depth + 1)
      refine ⟨rest ++ [']'], ?_⟩
      simp [nested, write, lineStart, writeItems, inner, List.replicate_succ]

theorem overflow?_nested {room n : Nat} (more : room < n) (position : Nat) (rest : Text) :
    overflow? room false position (List.replicate n '[' ++ rest) = some (.array, position + room + 1) := by
  induction room generalizing n position with
  | zero =>
      obtain ⟨n, rfl⟩ : ∃ less, n = less + 1 := ⟨n - 1, by omega⟩
      rfl
  | succ room ih =>
      obtain ⟨n, rfl⟩ : ∃ less, n = less + 1 := ⟨n - 1, by omega⟩
      rw [List.replicate_succ, List.cons_append, overflow?_array, ih (by omega)]
      simp only [Option.some.injEq, Prod.mk.injEq, true_and]
      omega

section Field

variable {room n : Nat} (more : room < n) (name : Text) (fields : List (Text × Value))

include more

theorem dump_nested : dump none (.object ((name, nested n) :: fields)) (room + 1) =
    ('\x7b' :: writeString name ++ [':', ' '] ++ List.replicate room '[', some .tooDeep) := by
  rw [dump, put_object_cons, putFields_cons, put_nested more]
  rfl

theorem load_nested (after : Text) :
    ∃ error, load (render none (.object ((name, nested n) :: fields)) ++ after) (room + 1) = .error error := by
  obtain ⟨rest, inner⟩ := write_nested n 1
  have layout : ∃ back, render none (.object ((name, nested n) :: fields)) ++ after =
      '\x7b' :: (writeString name ++ [':', ' '] ++ (List.replicate n '[' ++ back)) :=
    ⟨rest ++ (writeFields none 1 fields ++ '\x7d' :: after), by simp [render, write, lineStart, inner]⟩
  obtain ⟨back, layout⟩ := layout
  have named : Passes room (writeString name ++ [':', ' ']) := (Passes.string name).append .colon
  have passed := named 1 (List.replicate n '[' ++ back)
  rw [overflow?_nested more] at passed
  rw [layout, load, overflow?_object, passed]
  exact ⟨_, rfl⟩

end Field

end ScriptDocs.Json
