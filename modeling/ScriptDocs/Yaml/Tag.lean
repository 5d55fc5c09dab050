import ScriptDocs.Yaml.Timestamp

namespace ScriptDocs.Yaml

/-!
Tags say what kind of value a node stands for. A plain scalar without a tag gets one by its form.
-/

inductive Tag where
  | null
  | bool
  | int
  | float
  | binary
  | timestamp
  | omap
  | pairs
  | set
  | str
  | seq
  | map
  | merge
  | value
  | unknown
  deriving DecidableEq, Repr, Inhabited

namespace Tag

/-- What every standard tag starts with. -/
def standardStart : Text := "tag:yaml.org,2002:".toList

/-- The standard tags by their names. -/
def named : List (Text × Tag) :=
  [("null".toList, .null), ("bool".toList, .bool), ("int".toList, .int), ("float".toList, .float),
   ("binary".toList, .binary), ("timestamp".toList, .timestamp), ("omap".toList, .omap),
   ("pairs".toList, .pairs), ("set".toList, .set), ("str".toList, .str), ("seq".toList, .seq),
   ("map".toList, .map), ("merge".toList, .merge), ("value".toList, .value)]

/-- The tag of a written form. -/
def ofText (text : Text) : Tag :=
  match Text.after? standardStart text with
  | some name => (named.lookup name).getD .unknown
  | none => .unknown

/-- The text after a sign, if there is one. -/
def afterSign : Text → Text
  | '+' :: rest => rest
  | '-' :: rest => rest
  | text => text

/-- Whether a character is a digit or an underscore. -/
def isGroupedDigit (c : Char) : Bool :=
  Text.isDigit c || c == '_'

/-- Whether a text is a run of digits of a base, or underscores, that is not empty. -/
def isRun (base : Nat) (text : Text) : Bool :=
  !text.isEmpty && text.all (fun c => (Text.digitValue? base c).isSome || c == '_')

/-- Whether a text is a number from 0 to 59 with at most two digits. -/
def isSixtieth : Text → Bool
  | [c] => Text.isDigit c
  | [c, d] => '0' ≤ c && c ≤ '5' && Text.isDigit d
  | _ => false

/-- Whether a text is a run of digits that starts with a digit. -/
def isGrouped (text : Text) : Bool :=
  Text.isDigit (text.headD '_') && text.all isGroupedDigit

/-- Whether a text is a run of digits that does not start with zero. -/
def isWhole (text : Text) : Bool :=
  text.headD '0' != '0' && isGrouped text

/-- Whether a text, without its sign, is the numeral of an integer. -/
def isUnsignedInteger (text : Text) : Bool :=
  match text with
  | ['0'] => true
  | '0' :: 'b' :: digits => isRun 2 digits
  | '0' :: 'x' :: digits => isRun 16 digits
  | '0' :: digits => isRun 8 digits
  | _ =>
      match Text.segments ':' text with
      | first :: others => isWhole first && others.all isSixtieth
      | [] => false

/-- Whether a text is an exponent with its mark and its sign, or nothing. -/
def isExponent : Text → Bool
  | [] => true
  | mark :: sign :: digits =>
      (mark == 'e' || mark == 'E') && (sign == '+' || sign == '-') && !digits.isEmpty &&
        digits.all Text.isDigit
  | _ => false

/-- Whether a text is a real number in powers of ten: a whole part, a point and a fraction. -/
def isDecimal (text : Text) : Bool :=
  let fractionOf (rest : Text) := isExponent (rest.dropWhile isGroupedDigit)
  match text with
  | '.' :: c :: rest => Text.isDigit c && fractionOf rest
  | _ =>
      let text := afterSign text
      match text.dropWhile isGroupedDigit with
      | '.' :: rest => Text.isDigit (text.headD '_') && fractionOf rest
      | _ => false

/-- Whether a text is a real number in powers of sixty, with a point after the last. -/
def isSexagesimal (text : Text) : Bool :=
  let text := afterSign text
  match text.dropWhile (· != '.') with
  | '.' :: fraction =>
      fraction.all isGroupedDigit &&
        match Text.segments ':' (text.takeWhile (· != '.')) with
        | first :: other :: others => isGrouped first && (other :: others).all isSixtieth
        | _ => false
  | _ => false

/-- Whether a text is the word for infinity or for what is not a number. -/
def isRealWord (text : Text) : Bool :=
  [".inf", ".Inf", ".INF"].any (fun word => afterSign text == word.toList) ||
    [".nan", ".NaN", ".NAN"].any (fun word => text == word.toList)

/-- Whether a text is a word for a truth value. -/
def isTruthWord (text : Text) : Bool :=
  ["yes", "Yes", "YES", "no", "No", "NO", "true", "True", "TRUE", "false", "False", "FALSE", "on",
    "On", "ON", "off", "Off", "OFF"].any (fun word => text == word.toList)

/-- Whether a text is a timestamp; a date alone must have two digits for month and day. -/
def isTimestamp (text : Text) : Bool :=
  match Timestamp.ofText? text with
  | some stamp => stamp.isPadded || stamp.time.isSome
  | none => false

/-- Whether a text is one of the marks of properties and aliases, which no plain scalar can be. -/
def isMark (text : Text) : Bool :=
  ["!", "&", "*"].any (fun mark => text == mark.toList)

/-- The tag of a plain scalar by its form; a line break at its end does not count. -/
def ofPlain (text : Text) : Tag :=
  let line := Text.dropFinalNewline text
  if text.isEmpty then .null
  else if isTruthWord line then .bool
  else if isDecimal line || isSexagesimal line || isRealWord line then .float
  else if isUnsignedInteger (afterSign line) then .int
  else if line == "<<".toList then .merge
  else if ["~", "null", "Null", "NULL"].any (fun word => line == word.toList) then .null
  else if isTimestamp text then .timestamp
  else if line == "=".toList then .value
  else if isMark line then .unknown
  else .str

end Tag

end ScriptDocs.Yaml
