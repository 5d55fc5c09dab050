import ScriptDocs.Text.Blank
import ScriptDocs.Text.Digit
import ScriptDocs.Text.Lower
import ScriptDocs.Value.Basic
import ScriptDocs.Yaml.Fault
import ScriptDocs.Yaml.Timestamp

namespace ScriptDocs.Yaml.Scalar

/-!
The values of scalars whose tag says what they are to be. A text that is no numeral, truth word or
timestamp after all has a fault of its own.
-/

/-- A sign and the text after it. -/
def signOf : Text → Bool × Text
  | '-' :: rest => (true, rest)
  | '+' :: rest => (false, rest)
  | text => (false, text)

/-- The text after the mark of a base, if it starts with that. -/
def afterBaseMark (base : Nat) : Text → Text
  | '0' :: mark :: rest =>
      if (base == 16 && (mark == 'x' || mark == 'X')) || (base == 8 && (mark == 'o' || mark == 'O')) ||
          (base == 2 && (mark == 'b' || mark == 'B')) then
        rest
      else '0' :: mark :: rest
  | text => text

/-- The integer of a numeral in a base, with digits of any script and spaces around it. -/
def numeral (base : Nat) (text : Text) : Except Fault Int :=
  let (negative, unsigned) := signOf (Text.plainDigits (Text.trimSpaces text))
  let digits := afterBaseMark base unsigned
  let count := (digits.takeWhile Text.isDigit).length
  if base == 10 && Json.digitLimit < count then .error (.tooManyDigits count)
  else
    match Text.toNat? base digits with
    | some n => .ok (if negative then -(n : Int) else n)
    | none => .error (.integer base text)

/-- The integer of digits in base sixty, the first the most significant. -/
def sexagesimal (digits : List Int) : Int :=
  digits.foldl (fun value digit => value * 60 + digit) 0

/-- The integer of a scalar: underscores do not count; zero leads numerals in base 2, 16 and 8, and
colons divide digits in base sixty. -/
def integer (text : Text) : Except Fault Int := do
  let text := text.filter (· != '_')
  if text.isEmpty then throw .emptyNumber
  let (negative, unsigned) := signOf text
  let magnitude ←
    match unsigned with
    | [] => throw .emptyNumber
    | ['0'] => pure 0
    | '0' :: 'b' :: digits => numeral 2 digits
    | '0' :: 'x' :: digits => numeral 16 digits
    | '0' :: _ => numeral 8 unsigned
    | _ =>
        if unsigned.contains ':' then do
          pure (sexagesimal (← (Text.segments ':' unsigned).mapM (numeral 10)))
        else numeral 10 unsigned
  return if negative then -magnitude else magnitude

/-- The real number of a decimal that is the whole text, without a sign. -/
def decimal? (negative : Bool) (text : Text) : Option Decimal.Double :=
  let whole := text.takeWhile Text.isDigit
  let rest := text.drop whole.length
  let (fraction, rest) : Text × Text :=
    match rest with
    | '.' :: rest =>
        let digits := rest.takeWhile Text.isDigit
        (digits, rest.drop digits.length)
    | rest => ([], rest)
  let exponent? : Option Int :=
    match rest with
    | [] => some 0
    | 'e' :: rest =>
        let (negative, digits) := signOf rest
        (Text.toNat? 10 digits).map (fun n => if negative then -(n : Int) else n)
    | _ => none
  if whole.isEmpty && fraction.isEmpty then none
  else
    exponent?.map (fun exponent =>
      .ofDecimal negative (Text.toNat (whole ++ fraction)) (exponent - fraction.length))

/-- The real number of a text of small letters and digits of any script, with spaces around it. -/
def realNumeral (text : Text) : Except Fault Decimal.Double :=
  let (negative, unsigned) := signOf (Text.plainDigits (Text.trimSpaces text))
  if unsigned == "inf".toList || unsigned == "infinity".toList then .ok (.infinite negative)
  else if unsigned == "nan".toList then .ok .notANumber
  else
    match decimal? negative unsigned with
    | some number => .ok number
    | none => .error (.real text)

/-- The real number of digits in base sixty, the first the least significant: the sum of each digit
times its place, one after the other. -/
def realSexagesimal (digits : List Decimal.Double) : Except Fault Decimal.Double := do
  let step := fun (state : Decimal.Double × Nat) (digit : Decimal.Double) =>
    match Decimal.Double.ofInt state.2 with
    | .infinite _ => Except.error Fault.realTooLarge
    | place => Except.ok (state.1.add (digit.mul place), state.2 * 60)
  return (← digits.foldlM step (.zero false, 1)).1

/-- The text of a real number as it is read: underscores do not count, and letters count in either
case. -/
def realText (text : Text) : Text :=
  Text.lower (text.filter (· != '_'))

/-- Whether a text is the word for what is not a number. All such scalars stand for one value. -/
def isNotANumberWord (text : Text) : Bool :=
  (signOf (realText text)).2 == ".nan".toList

/-- The real number of a scalar; colons divide digits in base sixty. -/
def real (text : Text) : Except Fault Decimal.Double := do
  let digits := realText text
  if digits.isEmpty then throw .emptyNumber
  let (negative, unsigned) := signOf digits
  let magnitude ←
    if unsigned == ".inf".toList then pure (.infinite false)
    else if isNotANumberWord text then pure .notANumber
    else if unsigned.contains ':' then do
      let digits ← (Text.segments ':' unsigned).mapM realNumeral
      realSexagesimal digits.reverse
    else realNumeral unsigned
  return if negative then magnitude.neg else magnitude

/-- The truth value of a scalar, in letters of either case. -/
def truth (text : Text) : Except Fault Bool :=
  let word := Text.lower text
  if ["yes", "true", "on"].any (fun known => word == known.toList) then .ok true
  else if ["no", "false", "off"].any (fun known => word == known.toList) then .ok false
  else .error (.truth word)

/-- The date or the moment of a scalar. -/
def moment (text : Text) : Except Fault Atom :=
  match Timestamp.ofText? text with
  | none => .error .timestamp
  | some stamp =>
      match stamp.time with
      | none => ((Date.make stamp.year stamp.month stamp.day).map .date).mapError .calendar
      | some time =>
          ((Moment.make stamp.year stamp.month stamp.day time.hour time.minute time.second
            time.microsecond time.offset).map .moment).mapError .calendar

/-- The value of a character among the 64 digits of a text that stands for bytes. -/
def base64Digit? (c : Char) : Option Nat :=
  if 'A' ≤ c && c ≤ 'Z' then some (c.toNat - 'A'.toNat)
  else if 'a' ≤ c && c ≤ 'z' then some (c.toNat - 'a'.toNat + 26)
  else if '0' ≤ c && c ≤ '9' then some (c.toNat - '0'.toNat + 52)
  else if c == '+' then some 62
  else if c == '/' then some 63
  else none

/-- The bytes of a text in base 64. `held` are the digits of the group of four that is not full yet,
and `pads` counts the padding marks after them. Characters that are no digits do not count, and nothing
counts after a group that is filled up with padding. -/
def base64 : List Nat → Nat → Text → Except Fault (List UInt8)
  | [], _, [] => .ok []
  | _ :: _, _, [] => .error .malformed
  | held, pads, c :: rest =>
      if c == '=' then
        if 2 ≤ held.length && 4 ≤ held.length + (pads + 1) then
          match held with
          | [a, b, c] => .ok [UInt8.ofNat (a * 4 + b / 16), UInt8.ofNat (b % 16 * 16 + c / 4)]
          | a :: b :: _ => .ok [UInt8.ofNat (a * 4 + b / 16)]
          | _ => .ok []
        else base64 held (if 2 ≤ held.length then pads + 1 else pads) rest
      else
        match base64Digit? c with
        | none => base64 held pads rest
        | some digit =>
            match held with
            | [x, y, z] =>
                (base64 [] 0 rest).map
                  ([UInt8.ofNat (x * 4 + y / 16), UInt8.ofNat (y % 16 * 16 + z / 4),
                    UInt8.ofNat (z % 4 * 64 + digit)] ++ ·)
            | _ => base64 (held ++ [digit]) 0 rest

/-- The bytes of a scalar, which are written in base 64. -/
def bytes (text : Text) : Except Fault (List UInt8) :=
  if text.any (fun c => 128 ≤ c.toNat) then .error .malformed else base64 [] 0 text

end ScriptDocs.Yaml.Scalar
