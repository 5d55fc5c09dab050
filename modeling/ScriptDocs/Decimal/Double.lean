import ScriptDocs.Text.Numeral

namespace ScriptDocs.Decimal

/-!
Double precision numbers, exactly: a sign, a significand below 2^53 and a power of two. Every operation
computes an exact ratio and rounds it once, to the nearest double and, half way, to an even
significand.
-/

inductive Double where
  | finite (negative : Bool) (significand : Nat) (exponent : Int)
  | infinite (negative : Bool)
  | notANumber
  deriving DecidableEq, Repr, Inhabited

/-- The least power of two of a significand. -/
def leastExponent : Int := -1074

/-- The greatest power of two of a significand. -/
def greatestExponent : Int := 971

/-- Two to an integer power, as a numerator and a denominator. -/
def powerOfTwo (exponent : Int) : Nat × Nat :=
  (Nat.pow 2 exponent.toNat, Nat.pow 2 (-exponent).toNat)

/-- The quotient of two numbers, rounded to the nearest and, half way, to an even one. -/
def roundDiv (numerator denominator : Nat) : Nat :=
  let quotient := numerator / denominator
  let twice := 2 * (numerator % denominator)
  if denominator < twice || (twice == denominator && quotient % 2 == 1) then quotient + 1
  else quotient

namespace Double

def zero (negative : Bool) : Double :=
  .finite negative 0 leastExponent

/-- The double nearest to a ratio of natural numbers, with a sign. -/
def ofRatio (negative : Bool) (numerator denominator : Nat) : Double :=
  if numerator == 0 || denominator == 0 then zero negative
  else
    let magnitude : Int := (Nat.log2 numerator : Int) - (Nat.log2 denominator : Int)
    let scaled (exponent : Int) : Nat × Nat :=
      let (up, down) := powerOfTwo exponent
      (numerator * down, denominator * up)
    let lower := max leastExponent (magnitude - 53)
    let (top, bottom) := scaled lower
    let exponent := if top / bottom < Nat.pow 2 53 then lower else lower + 1
    let (top, bottom) := scaled exponent
    let rounded := roundDiv top bottom
    let (significand, exponent) :=
      if rounded == Nat.pow 2 53 then (Nat.pow 2 52, exponent + 1) else (rounded, exponent)
    if greatestExponent < exponent then .infinite negative
    else if significand == 0 then zero negative
    else .finite negative significand exponent

/-- The double nearest to a decimal, `digits · 10^exponent`. Exponents far beyond the range of doubles
are not multiplied out. -/
def ofDecimal (negative : Bool) (digits : Nat) (exponent : Int) : Double :=
  let size : Int := (Text.ofNat digits).length + exponent
  if digits == 0 || size < -400 then zero negative
  else if 400 < size then .infinite negative
  else ofRatio negative (digits * Nat.pow 10 exponent.toNat) (Nat.pow 10 (-exponent).toNat)

def ofInt (n : Int) : Double :=
  ofRatio (n < 0) n.natAbs 1

def neg : Double → Double
  | .finite negative significand exponent => .finite (!negative) significand exponent
  | .infinite negative => .infinite (!negative)
  | .notANumber => .notANumber

/-- The absolute value as a ratio of natural numbers. -/
def ratio (significand : Nat) (exponent : Int) : Nat × Nat :=
  let (up, down) := powerOfTwo exponent
  (significand * up, down)

def mul : Double → Double → Double
  | .finite n₁ s₁ e₁, .finite n₂ s₂ e₂ =>
      let (up, down) := ratio (s₁ * s₂) (e₁ + e₂)
      ofRatio (n₁ != n₂) up down
  | .notANumber, _ => .notANumber
  | _, .notANumber => .notANumber
  | .infinite n₁, .infinite n₂ => .infinite (n₁ != n₂)
  | .infinite n₁, .finite n₂ s₂ _ => if s₂ == 0 then .notANumber else .infinite (n₁ != n₂)
  | .finite n₁ s₁ _, .infinite n₂ => if s₁ == 0 then .notANumber else .infinite (n₁ != n₂)

/-- The sum of two numbers. A sum of opposites is a positive zero. -/
def add : Double → Double → Double
  | .finite n₁ s₁ e₁, .finite n₂ s₂ e₂ =>
      let least := min e₁ e₂
      let signed (negative : Bool) (significand : Nat) (exponent : Int) : Int :=
        let magnitude : Nat := significand * Nat.pow 2 (exponent - least).toNat
        if negative then -magnitude else magnitude
      let sum := signed n₁ s₁ e₁ + signed n₂ s₂ e₂
      let (up, down) := ratio sum.natAbs least
      ofRatio (if sum == 0 then n₁ && n₂ else sum < 0) up down
  | .notANumber, _ => .notANumber
  | _, .notANumber => .notANumber
  | .infinite n₁, .infinite n₂ => if n₁ == n₂ then .infinite n₁ else .notANumber
  | .infinite n₁, .finite _ _ _ => .infinite n₁
  | .finite _ _ _, .infinite n₂ => .infinite n₂

def isInt (number : Double) (n : Int) : Bool :=
  match number with
  | .finite negative significand exponent =>
      let (up, down) := ratio significand exponent
      (if negative then -(up : Int) else up) == n * down
  | _ => false

/-- Whether two numbers are equal as numbers: zeros are, and nothing equals what is not a number. -/
def sameNumber : Double → Double → Bool
  | .finite n₁ s₁ e₁, .finite n₂ s₂ e₂ => (s₁ == 0 && s₂ == 0) || (n₁ == n₂ && s₁ == s₂ && e₁ == e₂)
  | .infinite n₁, .infinite n₂ => n₁ == n₂
  | _, _ => false

end Double

end ScriptDocs.Decimal
