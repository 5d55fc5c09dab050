import ScriptDocs.Text.Utf8

namespace ScriptDocs.Utf8

/-!
Decoding undoes encoding. The bytes of a character are read as that character, at any position and
whatever bytes follow, so a text is read back character by character. Encoding undoes decoding as well:
each sequence that is taken for a character is the one that the character is written with, so bytes are
read only if they are the bytes of a text.
-/

theorem toNat_ofNat_of_lt {byte : Nat} (small : byte < 256) : (UInt8.ofNat byte).toNat = byte := by
  rw [UInt8.toNat_ofNat', Nat.mod_eq_of_lt small]

theorem ofNat_lt_iff {byte : Nat} (small : byte < 256) (bound : UInt8) :
    UInt8.ofNat byte < bound ↔ byte < bound.toNat := by
  rw [UInt8.lt_iff_toNat_lt, toNat_ofNat_of_lt small]

theorem le_ofNat_iff {byte : Nat} (small : byte < 256) (bound : UInt8) :
    bound ≤ UInt8.ofNat byte ↔ bound.toNat ≤ byte := by
  rw [UInt8.le_iff_toNat_le, toNat_ofNat_of_lt small]

theorem ofNat_eq_iff {byte : Nat} (small : byte < 256) (other : UInt8) :
    UInt8.ofNat byte = other ↔ byte = other.toNat := by
  rw [← UInt8.toNat_inj, toNat_ofNat_of_lt small]

/-- A byte that may follow the first of a sequence, as a number. -/
def IsTail (byte : Nat) : Prop :=
  0x80 ≤ byte ∧ byte < 0xC0

theorem IsTail.small {byte : Nat} (tail : IsTail byte) : byte < 256 :=
  Nat.lt_of_lt_of_le tail.2 (by decide)

theorem isTail_low_bits (n : Nat) : IsTail (n % 64 + 128) :=
  ⟨by omega, by omega⟩

theorem isContinuation_ofNat {byte : Nat} (tail : IsTail byte) : isContinuation (UInt8.ofNat byte) = true := by
  have bounds : 0x80 ≤ byte ∧ byte < 0xC0 := tail
  simpa [isContinuation, ofNat_lt_iff tail.small, le_ofNat_iff tail.small] using bounds

theorem payload_ofNat {byte : Nat} (tail : IsTail byte) : payload (UInt8.ofNat byte) = byte % 64 := by
  rw [payload, toNat_ofNat_of_lt tail.small]

theorem secondFits_ofNat {first second : Nat} (small : first < 256) (tail : IsTail second)
    (fits : (first = 0xE0 → 0xA0 ≤ second) ∧ (first = 0xED → second < 0xA0) ∧
      (first = 0xF0 → 0x90 ≤ second) ∧ (first = 0xF4 → second < 0x90)) :
    secondFits (UInt8.ofNat first) (UInt8.ofNat second) = true := by
  obtain ⟨long, single, longer, last⟩ := fits
  simp only [secondFits, isContinuation_ofNat tail, Bool.true_and, beq_iff_eq, ofNat_eq_iff small,
    ofNat_lt_iff tail.small, le_ofNat_iff tail.small, UInt8.reduceToNat]
  split
  · exact decide_eq_true (long ‹_›)
  · split
    · exact decide_eq_true (single ‹_›)
    · split
      · exact decide_eq_true (longer ‹_›)
      · split
        · exact decide_eq_true (last ‹_›)
        · rfl

section Sequences

variable {first second third fourth : Nat} (position : Nat) (rest : List UInt8)

theorem decodeFrom_one (low : first < 0x80) :
    decodeFrom position (UInt8.ofNat first :: rest) =
      (decodeFrom (position + 1) rest).map (Char.ofNat first :: ·) := by
  have small : first < 256 := by omega
  rw [decodeFrom.eq_def]
  simp [ofNat_lt_iff small, toNat_ofNat_of_lt small, low]

theorem decodeFrom_two (lead : 0xC2 ≤ first) (short : first < 0xE0) (tail : IsTail second) :
    decodeFrom position (UInt8.ofNat first :: UInt8.ofNat second :: rest) =
      (decodeFrom (position + 2) rest).map (Char.ofNat (first % 32 * 64 + second % 64) :: ·) := by
  have small : first < 256 := by omega
  have skipped : ¬ first < 0x80 ∧ ¬ first < 0xC2 := by omega
  rw [decodeFrom.eq_def]
  simp [ofNat_lt_iff small, toNat_ofNat_of_lt small, skipped, short, isContinuation_ofNat tail,
    payload_ofNat tail]

theorem decodeFrom_three (lead : 0xE0 ≤ first) (short : first < 0xF0) (tailSecond : IsTail second)
    (fits : secondFits (UInt8.ofNat first) (UInt8.ofNat second) = true) (tailThird : IsTail third) :
    decodeFrom position (UInt8.ofNat first :: UInt8.ofNat second :: UInt8.ofNat third :: rest) =
      (decodeFrom (position + 3) rest).map
        (Char.ofNat ((first % 16 * 64 + second % 64) * 64 + third % 64) :: ·) := by
  have small : first < 256 := by omega
  have skipped : ¬ first < 0x80 ∧ ¬ first < 0xC2 ∧ ¬ first < 0xE0 := by omega
  rw [decodeFrom.eq_def]
  simp [ofNat_lt_iff small, toNat_ofNat_of_lt small, skipped, short, fits,
    isContinuation_ofNat tailThird, payload_ofNat tailSecond, payload_ofNat tailThird]

theorem decodeFrom_four (lead : 0xF0 ≤ first) (short : first < 0xF5) (tailSecond : IsTail second)
    (fits : secondFits (UInt8.ofNat first) (UInt8.ofNat second) = true) (tailThird : IsTail third)
    (tailFourth : IsTail fourth) :
    decodeFrom position
        (UInt8.ofNat first :: UInt8.ofNat second :: UInt8.ofNat third :: UInt8.ofNat fourth :: rest) =
      (decodeFrom (position + 4) rest).map
        (Char.ofNat (((first % 8 * 64 + second % 64) * 64 + third % 64) * 64 + fourth % 64) :: ·) := by
  have small : first < 256 := by omega
  have skipped : ¬ first < 0x80 ∧ ¬ first < 0xC2 ∧ ¬ first < 0xE0 ∧ ¬ first < 0xF0 := by omega
  rw [decodeFrom.eq_def]
  simp [ofNat_lt_iff small, toNat_ofNat_of_lt small, skipped, short, fits,
    isContinuation_ofNat tailThird, isContinuation_ofNat tailFourth, payload_ofNat tailSecond,
    payload_ofNat tailThird, payload_ofNat tailFourth]

end Sequences

/-- The bytes of a character are read as that character. -/
theorem decodeFrom_encodeChar (position : Nat) (c : Char) (rest : List UInt8) :
    decodeFrom position (String.utf8EncodeChar c ++ rest) =
      (decodeFrom (position + (String.utf8EncodeChar c).length) rest).map (c :: ·) := by
  have same : Char.ofNat c.toNat = c := Char.ofNat_toNat c
  have valid : c.toNat < 0xD800 ∨ 0xDFFF < c.toNat ∧ c.toNat < 0x110000 := c.valid
  rw [String.utf8EncodeChar, show c.val.toNat = c.toNat from rfl]
  generalize c.toNat = n at same valid
  subst same
  -- One case for each number of bytes; the bits that the bytes carry add up to the code again.
  by_cases one : n ≤ 0x7F
  · simp only [if_pos one]
    exact decodeFrom_one position rest (by omega)
  by_cases two : n ≤ 0x7FF
  · have bits : (n / 64 % 32 + 192) % 32 * 64 + (n % 64 + 128) % 64 = n := by omega
    simp only [if_neg one, if_pos two]
    have read := decodeFrom_two position rest (show 0xC2 ≤ n / 64 % 32 + 192 by omega) (by omega)
      (isTail_low_bits n)
    rwa [bits] at read
  by_cases three : n ≤ 0xFFFF
  · have fits := secondFits_ofNat (show n / 4096 % 16 + 224 < 256 by omega) (isTail_low_bits (n / 64))
      (by omega)
    have bits : ((n / 4096 % 16 + 224) % 16 * 64 + (n / 64 % 64 + 128) % 64) * 64 + (n % 64 + 128) % 64 =
        n := by
      omega
    simp only [if_neg one, if_neg two, if_pos three]
    have read := decodeFrom_three position rest (by omega) (by omega) (isTail_low_bits _) fits
      (isTail_low_bits n)
    rwa [bits] at read
  · have fits := secondFits_ofNat (show n / 262144 % 8 + 240 < 256 by omega) (isTail_low_bits (n / 4096))
      (by omega)
    have bits : (((n / 262144 % 8 + 240) % 8 * 64 + (n / 4096 % 64 + 128) % 64) * 64 +
        (n / 64 % 64 + 128) % 64) * 64 + (n % 64 + 128) % 64 = n := by
      omega
    simp only [if_neg one, if_neg two, if_neg three]
    have read := decodeFrom_four position rest (by omega) (by omega) (isTail_low_bits _) fits
      (isTail_low_bits (n / 64)) (isTail_low_bits n)
    rwa [bits] at read

theorem decodeFrom_encode (position : Nat) (text : Text) :
    decodeFrom position (encode text) = .ok text := by
  induction text generalizing position with
  | nil => rfl
  | cons c text ih =>
      rw [encode, List.flatMap_cons, decodeFrom_encodeChar, ← encode, ih]
      rfl

theorem decode_encode (text : Text) : decode (encode text) = .ok text :=
  decodeFrom_encode 0 text

/-! ### Encoding undoes decoding -/

theorem toNat_charOfNat {code : Nat} (valid : code.isValidChar) : (Char.ofNat code).val.toNat = code := by
  rw [Char.ofNat, dif_pos valid]
  rfl

theorem isContinuation_bounds {byte : UInt8} (continues : isContinuation byte = true) : IsTail byte.toNat := by
  simpa [IsTail, isContinuation, UInt8.le_iff_toNat_le, UInt8.lt_iff_toNat_lt] using continues

theorem secondFits_bounds {first second : UInt8} (fits : secondFits first second = true) :
    IsTail second.toNat ∧ (first.toNat = 0xE0 → 0xA0 ≤ second.toNat) ∧
      (first.toNat = 0xED → second.toNat < 0xA0) ∧ (first.toNat = 0xF0 → 0x90 ≤ second.toNat) ∧
      (first.toNat = 0xF4 → second.toNat < 0x90) := by
  rw [secondFits, Bool.and_eq_true] at fits
  obtain ⟨continues, bound⟩ := fits
  refine ⟨isContinuation_bounds continues, ?_⟩
  simp only [beq_iff_eq, ← UInt8.toNat_inj, UInt8.reduceToNat] at bound
  refine ⟨fun same => ?_, fun same => ?_, fun same => ?_, fun same => ?_⟩ <;>
    simpa [same, UInt8.le_iff_toNat_le, UInt8.lt_iff_toNat_lt] using bound

theorem ofNat_eq_of_toNat {byte : UInt8} {n : Nat} (same : n = byte.toNat) : UInt8.ofNat n = byte := by
  rw [same, UInt8.ofNat_toNat]

section Bytes

variable {first second third fourth : UInt8}

theorem encodeChar_one (low : first < 0x80) : String.utf8EncodeChar (Char.ofNat first.toNat) = [first] := by
  have bound : first.toNat < 0x80 := UInt8.lt_iff_toNat_lt.mp low
  have short : first.toNat ≤ 127 := by omega
  rw [String.utf8EncodeChar, toNat_charOfNat (.inl (by omega))]
  simp [short]

theorem encodeChar_two (lead : ¬ first < 0xC2) (short : first < 0xE0)
    (tail : isContinuation second = true) :
    String.utf8EncodeChar (Char.ofNat (first.toNat % 32 * 64 + payload second)) = [first, second] := by
  have lower : 0xC2 ≤ first.toNat := by simpa [UInt8.lt_iff_toNat_lt] using lead
  have upper : first.toNat < 0xE0 := UInt8.lt_iff_toNat_lt.mp short
  obtain ⟨least, most⟩ := isContinuation_bounds tail
  have one : ¬ first.toNat % 32 * 64 + second.toNat % 64 ≤ 127 := by omega
  have two : first.toNat % 32 * 64 + second.toNat % 64 ≤ 2047 := by omega
  rw [payload, String.utf8EncodeChar, toNat_charOfNat (.inl (by omega))]
  simp only [if_neg one, if_pos two, List.cons.injEq, and_true]
  exact ⟨ofNat_eq_of_toNat (by omega), ofNat_eq_of_toNat (by omega)⟩

theorem encodeChar_three (lead : ¬ first < 0xE0) (short : first < 0xF0)
    (fits : secondFits first second = true) (tail : isContinuation third = true) :
    String.utf8EncodeChar
        (Char.ofNat ((first.toNat % 16 * 64 + payload second) * 64 + payload third)) =
      [first, second, third] := by
  have lower : 0xE0 ≤ first.toNat := by simpa [UInt8.lt_iff_toNat_lt] using lead
  have upper : first.toNat < 0xF0 := UInt8.lt_iff_toNat_lt.mp short
  obtain ⟨⟨leastSecond, mostSecond⟩, long, surrogate, -, -⟩ := secondFits_bounds fits
  obtain ⟨leastThird, mostThird⟩ := isContinuation_bounds tail
  rw [payload, payload]
  generalize whole : (first.toNat % 16 * 64 + second.toNat % 64) * 64 + third.toNat % 64 = code
  have valid : code.isValidChar := by
    unfold Nat.isValidChar
    omega
  have two : ¬ code ≤ 2047 := by omega
  have three : code ≤ 65535 := by omega
  rw [String.utf8EncodeChar, toNat_charOfNat valid]
  simp only [if_neg (show ¬ code ≤ 127 by omega), if_neg two, if_pos three, List.cons.injEq, and_true]
  exact ⟨ofNat_eq_of_toNat (by omega), ofNat_eq_of_toNat (by omega), ofNat_eq_of_toNat (by omega)⟩

theorem encodeChar_four (lead : ¬ first < 0xF0) (short : first < 0xF5)
    (fits : secondFits first second = true) (tailThird : isContinuation third = true)
    (tailFourth : isContinuation fourth = true) :
    String.utf8EncodeChar
        (Char.ofNat (((first.toNat % 8 * 64 + payload second) * 64 + payload third) * 64 +
          payload fourth)) =
      [first, second, third, fourth] := by
  have lower : 0xF0 ≤ first.toNat := by simpa [UInt8.lt_iff_toNat_lt] using lead
  have upper : first.toNat < 0xF5 := UInt8.lt_iff_toNat_lt.mp short
  obtain ⟨⟨leastSecond, mostSecond⟩, -, -, long, last⟩ := secondFits_bounds fits
  obtain ⟨leastThird, mostThird⟩ := isContinuation_bounds tailThird
  obtain ⟨leastFourth, mostFourth⟩ := isContinuation_bounds tailFourth
  rw [payload, payload, payload]
  generalize whole : ((first.toNat % 8 * 64 + second.toNat % 64) * 64 + third.toNat % 64) * 64 +
    fourth.toNat % 64 = code
  have valid : code.isValidChar := by
    unfold Nat.isValidChar
    omega
  have three : ¬ code ≤ 65535 := by omega
  rw [String.utf8EncodeChar, toNat_charOfNat valid]
  simp only [if_neg (show ¬ code ≤ 127 by omega), if_neg (show ¬ code ≤ 2047 by omega), if_neg three,
    List.cons.injEq, and_true]
  exact ⟨ofNat_eq_of_toNat (by omega), ofNat_eq_of_toNat (by omega), ofNat_eq_of_toNat (by omega),
    ofNat_eq_of_toNat (by omega)⟩

end Bytes

theorem map_ok {outcome : Except Fault Text} {c : Char} {text : Text}
    (mapped : outcome.map (c :: ·) = .ok text) : ∃ rest, outcome = .ok rest ∧ text = c :: rest := by
  cases outcome with
  | error fault => cases mapped
  | ok rest => exact ⟨rest, rfl, (Except.ok.inj mapped).symm⟩

theorem encode_of_decodeFrom {position : Nat} {bytes : List UInt8} {text : Text}
    (decoded : decodeFrom position bytes = .ok text) : encode text = bytes := by
  fun_induction decodeFrom position bytes generalizing text with
  | case1 =>
      cases decoded
      rfl
  | case2 position first rest low ih =>
      obtain ⟨more, read, rfl⟩ := map_ok decoded
      rw [encode, List.flatMap_cons, encodeChar_one low, ← encode, ih read]
      rfl
  | case5 position first _ lead short second rest tail ih =>
      obtain ⟨more, read, rfl⟩ := map_ok decoded
      rw [encode, List.flatMap_cons, encodeChar_two lead short tail, ← encode, ih read]
      rfl
  | case12 position first _ _ lead short second third rest fits tail ih =>
      obtain ⟨more, read, rfl⟩ := map_ok decoded
      rw [encode, List.flatMap_cons, encodeChar_three lead short (by simpa using fits) (by simpa using tail),
        ← encode, ih read]
      rfl
  | case22 position first _ _ _ lead short second third fourth rest fits tailThird tailFourth ih =>
      obtain ⟨more, read, rfl⟩ := map_ok decoded
      rw [encode, List.flatMap_cons, encodeChar_four lead short (by simpa using fits)
        (by simpa using tailThird) (by simpa using tailFourth), ← encode, ih read]
      rfl
  | _ => cases decoded

theorem decode_eq_ok_iff {bytes : List UInt8} {text : Text} : decode bytes = .ok text ↔ encode text = bytes :=
  ⟨encode_of_decodeFrom, fun same => same ▸ decode_encode text⟩

end ScriptDocs.Utf8
