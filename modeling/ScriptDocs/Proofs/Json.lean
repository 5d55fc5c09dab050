import ScriptDocs.Json.Reader
import ScriptDocs.Json.Writer
import ScriptDocs.Proofs.Text.Numeral

namespace ScriptDocs.Json

/-!
Reading what was written. Each token is read up to the text after it, and arrays and objects item by
item, on one line or over several. What is read back is the value, for every value whose text stands
for it alone: without reals, with integers within the limit of digits, and with distinct names.
-/

/-! ### Strings -/

theorem fourHex?_hexFixed {n : Nat} (small : n < 32) {rest : Text} (more : rest ≠ []) :
    fourHex? (Text.hexFixed 4 n ++ rest) = some (n, rest) := by
  obtain ⟨next, tail, rfl⟩ := List.exists_cons_of_ne_nil more
  have code : (Text.toNat? 16 (Text.hexFixed 4 n)).map (fun code => (code, next :: tail)) =
      some (n, next :: tail) := by
    rw [Text.toNat?_hexFixed small, Option.map_some]
  exact code

theorem codeEscape?_hexFixed {n : Nat} (small : n < 32) {rest : Text} (more : rest ≠ []) :
    codeEscape? (Text.hexFixed 4 n ++ rest) = some (Char.ofNat n, rest) := by
  have high : isHighSurrogate n = false := by
    simp [isHighSurrogate]
    omega
  have low : isLowSurrogate n = false := by
    simp [isLowSurrogate]
    omega
  rw [codeEscape?, fourHex?_hexFixed small more]
  simp [charOfCode, high, low]

theorem stringRest_escape (fuel opening : Nat) (c : Char) {rest : Text} (more : rest ≠ []) :
    stringRest (fuel + 1) opening (escape c ++ rest) =
      (stringRest fuel opening rest).map (fun (text, rest) => (c :: text, rest)) := by
  fun_cases escape c with
  | case8 c noQuote noBackslash _ _ _ _ _ control =>
      rw [List.cons_append, List.cons_append, stringRest, codeEscape?_hexFixed control more,
        Char.ofNat_toNat]
  | case9 c noQuote noBackslash _ _ _ _ _ visible =>
      rw [List.singleton_append, stringRest, if_neg visible]
      · exact noQuote
      · intro same
        exact absurd same noBackslash
      · intro tail same
        exact absurd same noBackslash
      · intro letter tail same
        exact absurd same noBackslash
  | _ => rfl

theorem escape_ne_nil (c : Char) : escape c ≠ [] := by
  fun_cases escape c <;> simp

theorem length_le_escaped (text : Text) : text.length ≤ (text.flatMap escape).length := by
  induction text with
  | nil => simp
  | cons c text ih =>
      have some := List.length_pos_iff.mpr (escape_ne_nil c)
      rw [List.flatMap_cons, List.length_append, List.length_cons]
      omega

theorem stringRest_escaped (text rest : Text) {fuel : Nat} (enough : text.length < fuel) (opening : Nat) :
    stringRest fuel opening (text.flatMap escape ++ '"' :: rest) = .ok (text, rest) := by
  induction text generalizing fuel with
  | nil =>
      obtain ⟨fuel, rfl⟩ : ∃ less, fuel = less + 1 := ⟨fuel - 1, by simp at enough; omega⟩
      rfl
  | cons c text ih =>
      obtain ⟨fuel, rfl⟩ : ∃ less, fuel = less + 1 := ⟨fuel - 1, by omega⟩
      rw [List.flatMap_cons, List.append_assoc, stringRest_escape fuel opening c (by simp),
        ih (by simpa using enough)]
      rfl

theorem readString_escaped (text rest : Text) :
    readString (text.flatMap escape ++ '"' :: rest) = .ok (text, rest) := by
  have enough : text.length < (text.flatMap escape ++ '"' :: rest).length + 1 := by
    rw [List.length_append]
    have escaped := length_le_escaped text
    omega
  exact stringRest_escaped text rest enough _

/-! ### Numbers and words -/

/-- Whether a text may follow a value: it ends, or starts with a space, a separator or a closing
bracket. -/
def delimits (rest : Text) : Bool :=
  rest.head?.all fun c => isSpace c || c == ',' || c == ']' || c == '\x7d'

theorem delimits_cons {c : Char} {rest : Text} (delimited : delimits (c :: rest) = true) :
    Text.isDigit c = false ∧ c ≠ '.' ∧ c ≠ 'e' ∧ c ≠ 'E' := by
  simp only [delimits, isSpace, List.head?_cons, Option.all_some, Bool.or_eq_true, beq_iff_eq] at delimited
  rcases delimited with (((((rfl | rfl) | rfl) | rfl) | rfl) | rfl) | rfl <;> decide

theorem span_ofNat (n : Nat) {rest : Text} (delimited : delimits rest = true) :
    (Text.ofNat n ++ rest).takeWhile Text.isDigit = Text.ofNat n ∧
      (Text.ofNat n ++ rest).dropWhile Text.isDigit = rest := by
  rw [List.takeWhile_append_of_pos (Text.ofNat_isDigit n),
    List.dropWhile_append_of_pos (Text.ofNat_isDigit n)]
  cases rest with
  | nil => simp
  | cons c rest => simp [(delimits_cons delimited).1]

theorem fractionDigits_delimited {rest : Text} (delimited : delimits rest = true) :
    fractionDigits rest = ([], rest) := by
  cases rest with
  | nil => rfl
  | cons c rest =>
      obtain ⟨_, noPoint, _⟩ := delimits_cons delimited
      rw [fractionDigits]
      simpa using noPoint

theorem exponentPart?_delimited {rest : Text} (delimited : delimits rest = true) :
    exponentPart? rest = none := by
  cases rest with
  | nil => rfl
  | cons c rest =>
      obtain ⟨_, _, small, capital⟩ := delimits_cons delimited
      simp [exponentPart?, small, capital]

theorem unsignedNumber_ofNat {n : Nat} (short : n < 10 ^ digitLimit) (negative : Bool) (start : Text)
    {rest : Text} (delimited : delimits rest = true) :
    unsignedNumber negative start (Text.ofNat n ++ rest) =
      .ok (.int (signed negative (Text.ofNat n)), rest) := by
  have filled := List.isEmpty_eq_false_iff.mpr (Text.ofNat_ne_nil n)
  have within := Nat.not_lt.mpr (Text.ofNat_length_le (by decide) short)
  by_cases zero : n = 0
  · subst zero
    have digits : Text.ofNat 0 = ['0'] := Text.ofNat_small (by decide)
    rw [digits, List.singleton_append, unsignedNumber, fractionDigits_delimited delimited]
    simp [exponentPart?_delimited delimited, digitLimit]
  · rw [unsignedNumber, (span_ofNat n delimited).1, (span_ofNat n delimited).2]
    · simp [filled, within, fractionDigits_delimited delimited, exponentPart?_delimited delimited]
    · intro tail starts
      apply zero
      apply Text.ofNat_head_zero
      obtain ⟨first, more, digits⟩ := List.exists_cons_of_ne_nil (Text.ofNat_ne_nil n)
      rw [digits] at starts ⊢
      cases starts
      rfl

theorem ofNat_cons (n : Nat) : ∃ first more, Text.ofNat n = first :: more ∧ Text.isDigit first = true := by
  obtain ⟨first, more, digits⟩ := List.exists_cons_of_ne_nil (Text.ofNat_ne_nil n)
  exact ⟨first, more, digits, Text.ofNat_isDigit n first (by simp [digits])⟩

/-- Whether a character may start the numeral of an integer. -/
def startsNumber (c : Char) : Bool :=
  Text.isDigit c || c == '-'

theorem ne_of_startsNumber {c other : Char} (starts : startsNumber c = true)
    (not : startsNumber other = false) : c ≠ other := by
  rintro rfl
  exact absurd (not.symm.trans starts) (by decide)

theorem ofInt_cons (n : Int) : ∃ first more, Text.ofInt n = first :: more ∧ startsNumber first = true := by
  cases n with
  | ofNat n =>
      obtain ⟨first, more, digits, digit⟩ := ofNat_cons n
      exact ⟨first, more, digits, by simp [startsNumber, digit]⟩
  | negSucc n => exact ⟨'-', _, rfl, by decide⟩

theorem not_word_of_digit {c : Char} (digit : Text.isDigit c = true) (rest : Text) :
    wordValues.find? (fun named => named.1.isPrefixOf (c :: rest)) = none ∧
      wordValues.find? (fun named => named.1.isPrefixOf ('-' :: c :: rest)) = none := by
  have other : ∀ letter, Text.isDigit letter = false → (letter == c) = false := by
    intro letter noDigit
    apply beq_false_of_ne
    rintro rfl
    exact absurd (noDigit.symm.trans digit) (by decide)
  constructor <;>
    simp [wordValues, List.isPrefixOf, other 'n' (by decide), other 't' (by decide), other 'f' (by decide),
      other 'N' (by decide), other 'I' (by decide), other '-' (by decide)]

theorem readAtom_ofInt {n : Int} (short : n.natAbs < 10 ^ digitLimit) {rest : Text}
    (delimited : delimits rest = true) : readAtom (Text.ofInt n ++ rest) = .ok (.int n, rest) := by
  cases n with
  | ofNat n =>
      have short : n < 10 ^ digitLimit := short
      obtain ⟨first, more, digits, digit⟩ := ofNat_cons n
      have read := unsignedNumber_ofNat short false (Text.ofNat n ++ rest) delimited
      rw [signed, if_neg (by decide), Text.toNat_ofNat] at read
      apply Eq.trans _ read
      rw [Text.ofInt, digits, List.cons_append, readAtom, (not_word_of_digit digit _).1, readNumber]
      intro tail starts
      cases starts
      exact absurd digit (by decide)
  | negSucc n =>
      have short : n + 1 < 10 ^ digitLimit := short
      obtain ⟨first, more, digits, digit⟩ := ofNat_cons (n + 1)
      have read := unsignedNumber_ofNat short true ('-' :: Text.ofNat (n + 1) ++ rest) delimited
      rw [signed, if_pos rfl, Text.toNat_ofNat] at read
      apply Eq.trans _ read
      rw [Text.ofInt, digits, List.cons_append, List.cons_append, readAtom, (not_word_of_digit digit _).2,
        readNumber]

/-! ### White space -/

theorem skipSpace_append {front : Text} (blank : ∀ c ∈ front, isSpace c = true) (back : Text) :
    skipSpace (front ++ back) = skipSpace back :=
  List.dropWhile_append_of_pos blank

theorem skipSpace_cons {c : Char} (filled : isSpace c = false) (rest : Text) :
    skipSpace (c :: rest) = c :: rest := by
  simp [skipSpace, filled]

theorem lineStart_blank (indent : Option Int) (depth : Nat) :
    ∀ c ∈ lineStart indent depth, isSpace c = true := by
  intro c member
  cases indent with
  | none => simp [lineStart] at member
  | some width =>
      rcases List.mem_cons.mp member with rfl | later
      · rfl
      · rw [List.eq_of_mem_replicate later]
        rfl

theorem itemSeparator_cons (indent : Option Int) (depth : Nat) :
    ∃ blank, itemSeparator indent depth = ',' :: blank ∧ ∀ c ∈ blank, isSpace c = true := by
  cases indent with
  | none => exact ⟨[' '], rfl, List.forall_mem_singleton.mpr rfl⟩
  | some width => exact ⟨_, rfl, lineStart_blank (some width) depth⟩

theorem skipSpace_lineStart (indent : Option Int) (depth : Nat) {c : Char} (filled : isSpace c = false)
    (rest : Text) : skipSpace (lineStart indent depth ++ c :: rest) = c :: rest := by
  rw [skipSpace_append (lineStart_blank indent depth), skipSpace_cons filled]

theorem delimits_lineStart (indent : Option Int) (depth : Nat) {rest : Text}
    (delimited : delimits rest = true) : delimits (lineStart indent depth ++ rest) = true := by
  cases indent with
  | none => exact delimited
  | some width => rfl

/-! ### Values -/

/-- Values that are read back as they were: without reals, with integers within the limit of digits,
and with distinct names in every object. -/
inductive Exact : Value → Prop
  | null : Exact .null
  | bool (value : Bool) : Exact (.bool value)
  | int {value : Int} (short : value.natAbs < 10 ^ digitLimit) : Exact (.int value)
  | string (value : Text) : Exact (.string value)
  | array {items : List Value} (exact : ∀ item ∈ items, Exact item) : Exact (.array items)
  | object {fields : List (Text × Value)} (distinct : (fields.map Prod.fst).Nodup)
      (exact : ∀ field ∈ fields, Exact field.2) : Exact (.object fields)

/-- Whether a value may start with a character. -/
def opens (c : Char) : Bool :=
  !isSpace c && c != ']' && c != '\ufeff'

theorem opens_of_startsNumber {c : Char} (starts : startsNumber c = true) : opens c = true := by
  simp [opens, isSpace, ne_of_startsNumber starts (show startsNumber ' ' = false by decide),
    ne_of_startsNumber starts (show startsNumber '\t' = false by decide),
    ne_of_startsNumber starts (show startsNumber '\n' = false by decide),
    ne_of_startsNumber starts (show startsNumber '\r' = false by decide),
    ne_of_startsNumber starts (show startsNumber ']' = false by decide),
    ne_of_startsNumber starts (show startsNumber '\ufeff' = false by decide)]

theorem Exact.write_cons {value : Value} (exact : Exact value) (indent : Option Int) (depth : Nat) :
    ∃ first more, write indent depth value = first :: more ∧ opens first = true := by
  cases exact with
  | null => exact ⟨_, _, rfl, by decide⟩
  | bool value => cases value <;> exact ⟨_, _, rfl, by decide⟩
  | @int value short =>
      obtain ⟨first, more, numeral, starts⟩ := ofInt_cons value
      exact ⟨first, more, numeral, opens_of_startsNumber starts⟩
  | string value => exact ⟨_, _, rfl, by decide⟩
  | @array items exact => cases items <;> exact ⟨_, _, rfl, by decide⟩
  | @object fields distinct exact => cases fields <;> exact ⟨_, _, rfl, by decide⟩

theorem skipSpace_write {value : Value} (exact : Exact value) (indent : Option Int) (depth : Nat)
    (rest : Text) : skipSpace (write indent depth value ++ rest) = write indent depth value ++ rest := by
  obtain ⟨first, more, starts, opening⟩ := exact.write_cons indent depth
  rw [starts]
  apply skipSpace_cons
  simp only [opens, Bool.and_eq_true, Bool.not_eq_true'] at opening
  exact opening.1.1

theorem Exact.fuel_succ {value : Value} (exact : Exact value) {indent : Option Int} {depth fuel : Nat}
    (enough : (write indent depth value).length ≤ fuel) : ∃ less, fuel = less + 1 := by
  obtain ⟨first, more, starts, _⟩ := exact.write_cons indent depth
  rw [starts, List.length_cons] at enough
  exact ⟨fuel - 1, by omega⟩

/-- A value is read back from its text, up to whatever follows. -/
def ReadsBack (indent : Option Int) (value : Value) : Prop :=
  ∀ {depth fuel : Nat} {rest : Text}, (write indent depth value).length ≤ fuel → delimits rest = true →
    readValue fuel (write indent depth value ++ rest) = .ok (value, rest)

theorem readItems_writeItems {indent : Option Int} {item : Value} {items : List Value}
    (exact : ∀ value ∈ item :: items, Exact value) (back : ∀ value ∈ item :: items, ReadsBack indent value)
    {depth fuel : Nat} (enough : (write indent depth item ++ writeItems indent depth items).length < fuel)
    (outer : Nat) (rest : Text) :
    readItems fuel (write indent depth item ++ (writeItems indent depth items ++
      (lineStart indent outer ++ ']' :: rest))) = .ok (item :: items, rest) := by
  induction items generalizing item fuel with
  | nil =>
      obtain ⟨fuel, rfl⟩ : ∃ less, fuel = less + 1 := ⟨fuel - 1, by omega⟩
      have within : (write indent depth item).length ≤ fuel := by
        rw [List.length_append] at enough
        omega
      rw [writeItems, List.nil_append, readItems,
        back item (by simp) within (delimits_lineStart indent outer rfl)]
      simp only [skipSpace_lineStart indent outer (show isSpace ']' = false by decide)]
  | cons next items ih =>
      obtain ⟨fuel, rfl⟩ : ∃ less, fuel = less + 1 := ⟨fuel - 1, by omega⟩
      obtain ⟨blank, separator, spaces⟩ := itemSeparator_cons indent depth
      rw [writeItems, separator] at enough ⊢
      simp only [List.length_append, List.length_cons] at enough
      have later := ih (fun value member => exact value (List.mem_cons_of_mem item member))
        (fun value member => back value (List.mem_cons_of_mem item member))
        (show (write indent depth next ++ writeItems indent depth items).length < fuel by
          rw [List.length_append]
          omega)
      simp only [List.cons_append, List.append_assoc]
      rw [readItems, back item (by simp) (by omega) rfl]
      simp only [skipSpace_cons (show isSpace ',' = false by decide)]
      rw [skipSpace_append spaces, skipSpace_write (exact next (by simp)), later]
      rfl

/-- A name, its colon and its value are read up to what follows the value. -/
theorem readFields_field {indent : Option Int} {value : Value} (exact : Exact value)
    (back : ReadsBack indent value) {depth fuel : Nat} (enough : (write indent depth value).length ≤ fuel)
    (name : Text) {rest : Text} (delimited : delimits rest = true) :
    readFields (fuel + 1) (writeString name ++ ':' :: ' ' :: (write indent depth value ++ rest)) =
      match skipSpace rest with
      | '\x7d' :: rest => .ok ([(name, value)], rest)
      | ',' :: rest =>
          (readFields fuel (skipSpace rest)).map (fun (fields, rest) => ((name, value) :: fields, rest))
      | rest => complain .comma rest := by
  have layout : writeString name ++ ':' :: ' ' :: (write indent depth value ++ rest) =
      '"' :: (name.flatMap escape ++ '"' :: ':' :: ([' '] ++ (write indent depth value ++ rest))) := by
    simp [writeString]
  have read := back enough delimited
  rw [layout, readFields, readString_escaped]
  simp only [skipSpace_cons (show isSpace ':' = false by decide)]
  rw [skipSpace_append (List.forall_mem_singleton.mpr rfl), skipSpace_write exact]
  generalize readValue fuel (write indent depth value ++ rest) = reading at read ⊢
  subst read
  rfl

theorem skipSpace_writeString (name rest : Text) :
    skipSpace (writeString name ++ rest) = writeString name ++ rest :=
  skipSpace_cons (by decide) _

theorem readFields_writeFields {indent : Option Int} {field : Text × Value} {fields : List (Text × Value)}
    (exact : ∀ entry ∈ field :: fields, Exact entry.2)
    (back : ∀ entry ∈ field :: fields, ReadsBack indent entry.2) {depth fuel : Nat}
    (enough : (write indent depth field.2 ++ writeFields indent depth fields).length < fuel)
    (outer : Nat) (rest : Text) :
    readFields fuel (writeString field.1 ++ ':' :: ' ' :: (write indent depth field.2 ++
      (writeFields indent depth fields ++ (lineStart indent outer ++ '\x7d' :: rest)))) =
      .ok (field :: fields, rest) := by
  induction fields generalizing field fuel with
  | nil =>
      obtain ⟨fuel, rfl⟩ : ∃ less, fuel = less + 1 := ⟨fuel - 1, by omega⟩
      have within : (write indent depth field.2).length ≤ fuel := by
        rw [List.length_append] at enough
        omega
      rw [writeFields, List.nil_append, readFields_field (exact field (by simp)) (back field (by simp))
        within field.1 (delimits_lineStart indent outer rfl)]
      simp only [skipSpace_lineStart indent outer (show isSpace '\x7d' = false by decide)]
  | cons next fields ih =>
      obtain ⟨fuel, rfl⟩ : ∃ less, fuel = less + 1 := ⟨fuel - 1, by omega⟩
      obtain ⟨blank, separator, spaces⟩ := itemSeparator_cons indent depth
      rw [writeFields, separator] at enough ⊢
      simp only [List.length_append, List.length_cons] at enough
      have within : (write indent depth field.2).length ≤ fuel := by omega
      have later := ih (fun value member => exact value (List.mem_cons_of_mem field member))
        (fun value member => back value (List.mem_cons_of_mem field member))
        (show (write indent depth next.2 ++ writeFields indent depth fields).length < fuel by
          rw [List.length_append]
          omega)
      simp only [List.cons_append, List.nil_append, List.append_assoc]
      rw [readFields_field (exact field (by simp)) (back field (by simp)) within field.1 rfl]
      simp only [skipSpace_cons (show isSpace ',' = false by decide)]
      rw [skipSpace_append spaces, skipSpace_writeString, later]
      rfl

theorem setField_new {name : Text} {fields : List (Text × Value)} (new : name ∉ fields.map Prod.fst)
    (value : Value) : setField name value fields = fields ++ [(name, value)] := by
  induction fields with
  | nil => rfl
  | cons field fields ih =>
      rw [List.map_cons, List.mem_cons, not_or] at new
      simp [setField, Ne.symm new.1, ih new.2]

theorem foldl_setField {built fields : List (Text × Value)}
    (distinct : ((built ++ fields).map Prod.fst).Nodup) :
    fields.foldl (fun built field => setField field.1 field.2 built) built = built ++ fields := by
  induction fields generalizing built with
  | nil => simp
  | cons field fields ih =>
      have new : field.1 ∉ built.map Prod.fst := by
        rw [List.map_append, List.map_cons, List.nodup_append] at distinct
        intro member
        exact distinct.2.2 _ member _ (by simp) rfl
      rw [List.foldl_cons, setField_new new, ih (by simpa using distinct)]
      simp

theorem ofFields_distinct {fields : List (Text × Value)} (distinct : (fields.map Prod.fst).Nodup) :
    ofFields fields = fields :=
  foldl_setField distinct

theorem readsBack_array {indent : Option Int} {items : List Value} (exact : ∀ item ∈ items, Exact item)
    (back : ∀ item ∈ items, ReadsBack indent item) : ReadsBack indent (.array items) := by
  intro depth fuel rest enough _
  obtain ⟨fuel, rfl⟩ := (Exact.array exact).fuel_succ enough
  cases items with
  | nil => rfl
  | cons item items =>
      have layout : write indent depth (.array (item :: items)) ++ rest =
          '[' :: (lineStart indent (depth + 1) ++ (write indent (depth + 1) item ++
            (writeItems indent (depth + 1) items ++ (lineStart indent depth ++ ']' :: rest)))) := by
        simp [write]
      rw [write] at enough
      simp only [List.length_append, List.length_cons, List.length_nil] at enough
      have within : (write indent (depth + 1) item ++ writeItems indent (depth + 1) items).length < fuel := by
        rw [List.length_append]
        omega
      have read := readItems_writeItems exact back within depth rest
      obtain ⟨first, more, starts, opening⟩ := (exact item (by simp)).write_cons indent (depth + 1)
      rw [layout, readValue, skipSpace_append (lineStart_blank indent _),
        skipSpace_write (exact item (by simp))]
      rw [starts, List.cons_append] at read ⊢
      split
      · rename_i closed
        cases closed
        exact absurd opening (by decide)
      · rw [read]
        rfl

theorem readsBack_object {indent : Option Int} {fields : List (Text × Value)}
    (distinct : (fields.map Prod.fst).Nodup) (exact : ∀ field ∈ fields, Exact field.2)
    (back : ∀ field ∈ fields, ReadsBack indent field.2) : ReadsBack indent (.object fields) := by
  intro depth fuel rest enough _
  obtain ⟨fuel, rfl⟩ := (Exact.object distinct exact).fuel_succ enough
  cases fields with
  | nil => rfl
  | cons field fields =>
      have layout : write indent depth (.object (field :: fields)) ++ rest =
          '\x7b' :: (lineStart indent (depth + 1) ++ (writeString field.1 ++ ':' :: ' ' ::
            (write indent (depth + 1) field.2 ++ (writeFields indent (depth + 1) fields ++
              (lineStart indent depth ++ '\x7d' :: rest))))) := by
        simp [write]
      rw [write] at enough
      simp only [List.length_append, List.length_cons, List.length_nil] at enough
      have within : (write indent (depth + 1) field.2 ++ writeFields indent (depth + 1) fields).length <
          fuel := by
        rw [List.length_append]
        omega
      have read := readFields_writeFields exact back within depth rest
      rw [layout, readValue, skipSpace_append (lineStart_blank indent _), skipSpace_writeString]
      rw [writeString, List.cons_append, List.cons_append] at read ⊢
      split
      · rename_i closed
        cases closed
      · rw [read]
        simp only [Except.map, ofFields_distinct distinct]

theorem Exact.readsBack {value : Value} (exact : Exact value) (indent : Option Int) :
    ReadsBack indent value := by
  induction exact with
  | array exact ih => exact readsBack_array exact ih
  | object distinct exact ih => exact readsBack_object distinct exact ih
  | null =>
      intro depth fuel rest enough _
      obtain ⟨fuel, rfl⟩ := Exact.null.fuel_succ enough
      rfl
  | bool value =>
      intro depth fuel rest enough _
      obtain ⟨fuel, rfl⟩ := (Exact.bool value).fuel_succ enough
      cases value <;> rfl
  | @int value short =>
      intro depth fuel rest enough delimited
      obtain ⟨fuel, rfl⟩ := (Exact.int short).fuel_succ enough
      obtain ⟨first, more, numeral, starts⟩ := ofInt_cons value
      rw [write, ← readAtom_ofInt short delimited, numeral, List.cons_append, readValue]
      · intro tail same
        exact absurd (List.cons.inj same).1 (ne_of_startsNumber starts (by decide))
      · intro tail same
        exact absurd (List.cons.inj same).1 (ne_of_startsNumber starts (by decide))
      · intro tail same
        exact absurd (List.cons.inj same).1 (ne_of_startsNumber starts (by decide))
  | string value =>
      intro depth fuel rest enough _
      obtain ⟨fuel, rfl⟩ := (Exact.string value).fuel_succ enough
      have layout : write indent depth (.string value) ++ rest =
          '"' :: (value.flatMap escape ++ '"' :: rest) := by
        simp [write, writeString]
      rw [layout, readValue, readString_escaped]
      rfl

/-- The text of a value is read as that value, whatever white space follows it. -/
theorem parse_render {value : Value} (exact : Exact value) (indent : Option Int) {after : Text}
    (blank : ∀ c ∈ after, isSpace c = true) : parse (render indent value ++ after) = .ok value := by
  have delimited : delimits after = true := by
    cases after with
    | nil => rfl
    | cons c after => simp [delimits, blank c (by simp)]
  have ended : skipSpace after = [] := by
    have skipped := skipSpace_append blank []
    rwa [List.append_nil] at skipped
  have whole : readWhole (write indent 0 value ++ after) = .ok value := by
    have enough : (write indent 0 value).length ≤ 2 * (write indent 0 value ++ after).length + 2 := by
      rw [List.length_append]
      omega
    rw [readWhole, skipSpace_write exact, exact.readsBack indent enough delimited]
    · simp only [ended]
    · intro tail marked
      obtain ⟨first, more, starts, opening⟩ := exact.write_cons indent 0
      rw [starts] at marked
      cases marked
      exact absurd opening (by decide)
  rw [parse, render, whole]
  rfl

end ScriptDocs.Json
