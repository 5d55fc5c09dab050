import ScriptDocs.Value.Calendar

namespace ScriptDocs.CommandLine

/-!
The texts of an instant, which is counted in microseconds from the start of 1970: one for written
documents and one for records.
-/

/-- The date some days after the start of 1970. Years are counted from March, so that a leap day ends
its year; 146097 days make up 400 years. -/
def dateOfDays (days : Nat) : Date :=
  let shifted := days + 719468
  let cycle := shifted / 146097
  let dayOfCycle := shifted % 146097
  let yearOfCycle :=
    (dayOfCycle - dayOfCycle / 1460 + dayOfCycle / 36524 - dayOfCycle / 146096) / 365
  let dayOfYear := dayOfCycle - (365 * yearOfCycle + yearOfCycle / 4 - yearOfCycle / 100)
  let monthFromMarch := (5 * dayOfYear + 2) / 153
  let month := if monthFromMarch < 10 then monthFromMarch + 3 else monthFromMarch - 9
  { year := yearOfCycle + 400 * cycle + (if month ≤ 2 then 1 else 0)
    month
    day := dayOfYear - (153 * monthFromMarch + 2) / 5 + 1 }

def timeOfDayText (microseconds : Nat) : Text :=
  let seconds := microseconds / 1000000
  Text.decimalFixed 2 (seconds / 3600 % 24) ++ [':'] ++ Text.decimalFixed 2 (seconds / 60 % 60) ++
    [':'] ++ Text.decimalFixed 2 (seconds % 60)

def dateText (microseconds : Nat) : Text :=
  (dateOfDays (microseconds / 86400000000)).text

/-- An instant as written documents show it. -/
def writeTime (microseconds : Nat) : Text :=
  let fraction := microseconds % 1000000
  dateText microseconds ++ ['T'] ++ timeOfDayText microseconds ++
    (if fraction == 0 then [] else '.' :: Text.decimalFixed 6 fraction) ++ "+00:00".toList

/-- An instant as records show it. -/
def recordTime (microseconds : Nat) : Text :=
  dateText microseconds ++ [' '] ++ timeOfDayText microseconds ++ [','] ++
    Text.decimalFixed 3 (microseconds / 1000)

/-- The text of a random identifier: its version is 4, and its variant the standard one. -/
def runIdText (bytes : List UInt8) : Text :=
  let marked := bytes.mapIdx (fun index byte =>
    if index == 6 then byte % 16 + 0x40 else if index == 8 then byte % 64 + 0x80 else byte)
  let digits := marked.map (fun byte => Text.hexFixed 2 byte.toNat)
  let part (start count : Nat) : Text := ((digits.drop start).take count).flatten
  Text.joinWith ['-'] [part 0 4, part 4 2, part 6 2, part 8 2, part 10 6]

end ScriptDocs.CommandLine
