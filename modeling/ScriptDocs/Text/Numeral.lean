import ScriptDocs.Text.Basic

namespace ScriptDocs.Text

/-!
Numerals: whole numbers written in a base up to sixteen, with or without a fixed width, and read back
digit by digit.
-/

/-- The character of a digit below sixteen. -/
def digitChar (digit : Nat) : Char :=
  if digit < 10 then Char.ofNat ('0'.toNat + digit) else Char.ofNat ('a'.toNat + (digit - 10))

/-- The value of a character as a digit of the given base. -/
def digitValue? (base : Nat) (c : Char) : Option Nat :=
  let value :=
    if '0'.toNat ≤ c.toNat ∧ c.toNat ≤ '9'.toNat then some (c.toNat - '0'.toNat)
    else if 'a'.toNat ≤ c.toNat ∧ c.toNat ≤ 'f'.toNat then some (c.toNat - 'a'.toNat + 10)
    else if 'A'.toNat ≤ c.toNat ∧ c.toNat ≤ 'F'.toNat then some (c.toNat - 'A'.toNat + 10)
    else none
  value.filter (· < base)

/-- Whether a character is one of the ten digits `0` to `9`. -/
def isDigit (c : Char) : Bool :=
  '0'.toNat ≤ c.toNat && c.toNat ≤ '9'.toNat

/-- The decimal numeral of a natural number. -/
def ofNat (n : Nat) : Text :=
  if n < 10 then [digitChar n] else ofNat (n / 10) ++ [digitChar (n % 10)]
termination_by n

def ofInt : Int → Text
  | .ofNat n => ofNat n
  | .negSucc n => '-' :: ofNat (n + 1)

/-- The last `width` hexadecimal digits of a number. -/
def hexFixed : Nat → Nat → Text
  | 0, _ => []
  | width + 1, n => hexFixed width (n / 16) ++ [digitChar (n % 16)]

/-- The last `width` decimal digits of a number. -/
def decimalFixed : Nat → Nat → Text
  | 0, _ => []
  | width + 1, n => decimalFixed width (n / 10) ++ [digitChar (n % 10)]

/-- Appends the digits of a numeral to a number; characters that are no digits count as zero. -/
def digitsOnto (base start : Nat) (numeral : Text) : Nat :=
  numeral.foldl (fun value c => value * base + (digitValue? base c).getD 0) start

/-- The value of a run of decimal digits. -/
def toNat (numeral : Text) : Nat :=
  digitsOnto 10 0 numeral

/-- The value of a non-empty run of digits of a base. -/
def toNat? (base : Nat) (numeral : Text) : Option Nat :=
  if !numeral.isEmpty && numeral.all (fun c => (digitValue? base c).isSome) then
    some (digitsOnto base 0 numeral)
  else
    none

end ScriptDocs.Text
