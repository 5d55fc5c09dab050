import ScriptDocs.Value.Calendar

namespace ScriptDocs.Yaml

/-!
Timestamps: a date, or a date with a time of day, which may have a fraction and the offset of a zone.
-/

/-- The parts of a time of day: hour, minute, second, microseconds and, if it is said, the offset in
seconds. -/
structure ClockTime where
  hour : Nat
  minute : Nat
  second : Nat
  microsecond : Nat
  offset : Option Int
  deriving DecidableEq, Repr

/-- The parts of a timestamp. `isPadded` says that month and day have two digits each. -/
structure Timestamp where
  year : Nat
  month : Nat
  day : Nat
  isPadded : Bool
  time : Option ClockTime
  deriving DecidableEq, Repr

namespace Timestamp

/-- The number of a run of `least` to `most` digits and the text after it. -/
def number? (least most : Nat) (text : Text) : Option (Nat × Text) :=
  let digits := text.takeWhile Text.isDigit
  if least ≤ digits.length && digits.length ≤ most then
    some (Text.toNat digits, text.drop digits.length)
  else none

/-- The number that follows a mark. -/
def numberAfter? (mark : Char) (least most : Nat) : Text → Option (Nat × Text)
  | c :: rest => if c == mark then number? least most rest else none
  | [] => none

/-- The microseconds of a fraction, of which six digits count. -/
def fraction : Text → Nat × Text
  | '.' :: rest =>
      let digits := rest.takeWhile Text.isDigit
      (Text.toNat ((digits ++ "000000".toList).take 6), rest.drop digits.length)
  | text => (0, text)

/-- The offset of a zone that is the whole text; there may be none. -/
def offset? (text : Text) : Option (Option Int) :=
  if text.isEmpty then some none
  else
    match text.dropWhile (fun c => c == ' ' || c == '\t') with
    | ['Z'] => some (some 0)
    | sign :: rest =>
        if sign == '+' || sign == '-' then do
          let (hours, rest) ← number? 1 2 rest
          let minutes ←
            match rest with
            | [] => some 0
            | rest =>
                match numberAfter? ':' 2 2 rest with
                | some (minutes, []) => some minutes
                | _ => none
          let seconds : Int := (hours * 60 + minutes) * 60
          return some (if sign == '-' then -seconds else seconds)
        else none
    | [] => none

/-- The time of day that is the whole text. -/
def clockTime? (text : Text) : Option ClockTime := do
  let (hour, rest) ← number? 1 2 text
  let (minute, rest) ← numberAfter? ':' 2 2 rest
  let (second, rest) ← numberAfter? ':' 2 2 rest
  let (microsecond, rest) := fraction rest
  let offset ← offset? rest
  return { hour, minute, second, microsecond, offset }

/-- The text after what separates a date from a time. -/
def afterSeparator? : Text → Option Text
  | c :: rest =>
      if c == 'T' || c == 't' then some rest
      else if c == ' ' || c == '\t' then some (rest.dropWhile (fun c => c == ' ' || c == '\t'))
      else none
  | [] => none

/-- The timestamp that is the whole text, but for a line break at its end. -/
def ofText? (text : Text) : Option Timestamp := do
  let text := Text.dropFinalNewline text
  let (year, rest) ← number? 4 4 text
  let (month, rest) ← numberAfter? '-' 1 2 rest
  let (day, rest) ← numberAfter? '-' 1 2 rest
  let isPadded := text.length - rest.length == 10
  if rest.isEmpty then return { year, month, day, isPadded, time := none }
  let time ← clockTime? (← afterSeparator? rest)
  return { year, month, day, isPadded, time := some time }

end Timestamp

end ScriptDocs.Yaml
