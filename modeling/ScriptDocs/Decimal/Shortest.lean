import ScriptDocs.Decimal.Double

namespace ScriptDocs.Decimal

/-!
The shortest decimal that reads back as a given double and, of those, the nearest to it. For each
number of digits the two neighbours of the value on that grid are tried, in exact arithmetic.
-/

/-- A decimal: its digits as a number, and the power of ten of the last one. -/
structure Scaled where
  digits : Nat
  exponent : Int
  deriving DecidableEq, Repr, Inhabited

/-- The power of ten of the leading digit of a ratio above zero. -/
def leadingPower (numerator denominator : Nat) : Int :=
  let guess : Int := (Text.ofNat numerator).length - (Text.ofNat denominator).length
  if denominator * Nat.pow 10 guess.toNat ≤ numerator * Nat.pow 10 (-guess).toNat then guess else guess - 1

/-- The decimal with `count` digits nearest to a ratio, among the two around it that read back as the
double with this significand and exponent. -/
def shortestWith? (significand : Nat) (exponent : Int) (count : Nat) : Option Scaled :=
  let (numerator, denominator) := Double.ratio significand exponent
  let last : Int := leadingPower numerator denominator - (count - 1 : Nat)
  let top := numerator * Nat.pow 10 (-last).toNat
  let bottom := denominator * Nat.pow 10 last.toNat
  let below := top / bottom
  let readsBack (digits : Nat) : Bool :=
    Double.ofDecimal false digits last == .finite false significand exponent
  let nearer := if 2 * (top % bottom) ≤ bottom then below else below + 1
  let farther := if 2 * (top % bottom) ≤ bottom then below + 1 else below
  if readsBack nearer then some ⟨nearer, last⟩
  else if readsBack farther then some ⟨farther, last⟩
  else none

/-- The shortest decimal that reads back as the double with this significand and exponent; seventeen
digits always do. -/
def shortest (significand : Nat) (exponent : Int) : Scaled :=
  ((List.range 17).findSome? (fun count => shortestWith? significand exponent (count + 1))).getD
    ⟨significand, 0⟩

/-- How the text of a double is laid out. -/
structure Layout where
  leastPositional : Int
  leastExponential : Int
  exponentWidth : Nat
  notANumber : Text
  infinity : Text

/-- Numbers are written positionally from 0.0001 up to 10^16 and keep a fractional digit; beyond, the
exponent has a sign and at least two digits. -/
def Layout.standard : Layout where
  leastPositional := -4
  leastExponential := 16
  exponentWidth := 2
  notANumber := "nan".toList
  infinity := "inf".toList

/-- The digits of a decimal without trailing zeros. -/
def significantDigits (decimal : Scaled) : Text :=
  Text.trimRight '0' (Text.ofNat decimal.digits)

/-- The text of digits whose first has the given power of ten. -/
def Layout.write (layout : Layout) (digits : Text) (power : Int) : Text :=
  if layout.leastPositional ≤ power && power < layout.leastExponential then
    if power < 0 then
      "0.".toList ++ List.replicate (-power - 1).toNat '0' ++ digits
    else
      let whole := digits.take (power.toNat + 1)
      let fraction := digits.drop (power.toNat + 1)
      whole ++ List.replicate (power.toNat + 1 - digits.length) '0' ++ ['.'] ++
        (if fraction.isEmpty then ['0'] else fraction)
  else
    let exponent := Text.ofNat power.natAbs
    digits.take 1 ++ (if digits.length ≤ 1 then [] else '.' :: digits.drop 1) ++ ['e'] ++
      [if power < 0 then '-' else '+'] ++
      List.replicate (layout.exponentWidth - exponent.length) '0' ++ exponent

def Layout.text (layout : Layout) : Double → Text
  | .notANumber => layout.notANumber
  | .infinite negative => (if negative then ['-'] else []) ++ layout.infinity
  | .finite negative significand exponent =>
      let sign : Text := if negative then ['-'] else []
      if significand == 0 then sign ++ layout.write ['0'] 0
      else
        let decimal := shortest significand exponent
        let power : Int := (Text.ofNat decimal.digits).length - 1 + decimal.exponent
        sign ++ layout.write (significantDigits decimal) power

end ScriptDocs.Decimal
