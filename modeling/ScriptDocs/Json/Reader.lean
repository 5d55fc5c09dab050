import ScriptDocs.Json.Nesting
import ScriptDocs.Json.Value
import ScriptDocs.Text.Numeral

namespace ScriptDocs.Json

/-!
Reading JSON values. A fault says what was expected and where; places are carried as the number of
characters still to read, so that reading needs no look back. Numbers may be as large as they are, but
an integer may not have more digits than the limit, and there has to be room for all levels of a text.
-/

/-- What is wrong with a text that should be a JSON value. -/
inductive Complaint where
  | value
  | name
  | colon
  | comma
  | extraData
  | unterminatedString
  | controlCharacter
  | escape
  | unicodeEscape
  | byteOrderMark
  deriving DecidableEq, Repr

def Complaint.message : Complaint → Text
  | .value => "Expecting value".toList
  | .name => "Expecting property name enclosed in double quotes".toList
  | .colon => "Expecting ':' delimiter".toList
  | .comma => "Expecting ',' delimiter".toList
  | .extraData => "Extra data".toList
  | .unterminatedString => "Unterminated string starting at".toList
  | .controlCharacter => "Invalid control character at".toList
  | .escape => "Invalid \\escape".toList
  | .unicodeEscape => "Invalid \\uXXXX escape".toList
  | .byteOrderMark => "Unexpected UTF-8 BOM (decode using utf-8-sig)".toList

/-- Why reading stopped: a complaint with what was left to read, or an integer with too many digits. -/
inductive Stop where
  | malformed (complaint : Complaint) (left : Nat)
  | tooManyDigits (count : Nat)
  deriving DecidableEq, Repr

/-- A value and the text after it. -/
abbrev Reading (α : Type) := Except Stop (α × Text)

def complain {α : Type} (complaint : Complaint) (at_ : Text) : Reading α :=
  .error (.malformed complaint at_.length)

/-- Whether a character may stand between tokens. -/
def isSpace (c : Char) : Bool :=
  c == ' ' || c == '\t' || c == '\n' || c == '\r'

def skipSpace (text : Text) : Text :=
  text.dropWhile isSpace

/-- The code of four hexadecimal digits, if something follows them. -/
def fourHex? : Text → Option (Nat × Text)
  | a :: b :: c :: d :: next :: rest =>
      (Text.toNat? 16 [a, b, c, d]).map (fun code => (code, next :: rest))
  | _ => none

/-- Whether a code is the first half of a surrogate pair. -/
def isHighSurrogate (code : Nat) : Bool :=
  0xD800 ≤ code && code < 0xDC00

/-- Whether a code is the second half of a surrogate pair. -/
def isLowSurrogate (code : Nat) : Bool :=
  0xDC00 ≤ code && code < 0xE000

/-- The character of a code; half a pair alone has none and is replaced. -/
def charOfCode (code : Nat) : Char :=
  if isHighSurrogate code || isLowSurrogate code then Char.ofNat 0xFFFD else Char.ofNat code

/-- The second half of a surrogate pair, if the text goes on with one. -/
def lowSurrogate? : Text → Option (Nat × Text)
  | '\\' :: 'u' :: rest =>
      match fourHex? rest with
      | some (code, rest) => if isLowSurrogate code then some (code, rest) else none
      | none => none
  | _ => none

/-- The character of a code escape, whose digits start the text. -/
def codeEscape? (text : Text) : Option (Char × Text) :=
  match fourHex? text with
  | none => none
  | some (high, rest) =>
      if isHighSurrogate high then
        match lowSurrogate? rest with
        | some (low, rest) =>
            some (Char.ofNat (0x10000 + (high - 0xD800) * 0x400 + (low - 0xDC00)), rest)
        | none => some (charOfCode high, rest)
      else some (charOfCode high, rest)

/-- The character that an escape letter stands for. -/
def escapeLetter? : Char → Option Char
  | '"' => some '"'
  | '\\' => some '\\'
  | '/' => some '/'
  | 'b' => some '\x08'
  | 'f' => some '\x0c'
  | 'n' => some '\n'
  | 'r' => some '\r'
  | 't' => some '\t'
  | _ => none

/-- The rest of a string whose opening quote had `opening` characters to go, itself included. -/
def stringRest (fuel opening : Nat) (text : Text) : Reading Text :=
  match fuel with
  | 0 => .error (.malformed .unterminatedString opening)
  | fuel + 1 =>
      match text with
      | [] => .error (.malformed .unterminatedString opening)
      | '"' :: rest => .ok ([], rest)
      | ['\\'] => .error (.malformed .unterminatedString opening)
      | '\\' :: 'u' :: rest =>
          match codeEscape? rest with
          | none => complain .unicodeEscape ('u' :: rest)
          | some (c, rest) =>
              (stringRest fuel opening rest).map (fun (text, rest) => (c :: text, rest))
      | '\\' :: letter :: rest =>
          match escapeLetter? letter with
          | none => complain .escape ('\\' :: letter :: rest)
          | some c => (stringRest fuel opening rest).map (fun (text, rest) => (c :: text, rest))
      | c :: rest =>
          if c.toNat < 32 then complain .controlCharacter (c :: rest)
          else (stringRest fuel opening rest).map (fun (text, rest) => (c :: text, rest))

/-- The string whose text follows its opening quote. -/
def readString (text : Text) : Reading Text :=
  stringRest (text.length + 1) (text.length + 1) text

/-- The integer of a sign and a run of digits. -/
def signed (negative : Bool) (digits : Text) : Int :=
  if negative then -(Text.toNat digits : Int) else Text.toNat digits

/-- The digits after a decimal point, if there are any. -/
def fractionDigits : Text → Text × Text
  | '.' :: rest =>
      let digits := rest.takeWhile Text.isDigit
      if digits.isEmpty then ([], '.' :: rest) else (digits, rest.dropWhile Text.isDigit)
  | text => ([], text)

/-- The exponent after its mark, if there is one with digits. -/
def exponentPart? (text : Text) : Option (Int × Text) :=
  match text with
  | mark :: rest =>
      if mark == 'e' || mark == 'E' then
        let (negative, rest) :=
          match rest with
          | '-' :: rest => (true, rest)
          | '+' :: rest => (false, rest)
          | rest => (false, rest)
        let digits := rest.takeWhile Text.isDigit
        if digits.isEmpty then none
        else some (signed negative digits, rest.dropWhile Text.isDigit)
      else none
  | [] => none

/-- The number that a sign and the text after it make up. -/
def unsignedNumber (negative : Bool) (start text : Text) : Reading Value :=
  let (whole, rest) : Text × Text :=
    match text with
    | '0' :: rest => (['0'], rest)
    | _ => (text.takeWhile Text.isDigit, text.dropWhile Text.isDigit)
  if whole.isEmpty then complain .value start
  else
    let (fraction, rest) := fractionDigits rest
    match exponentPart? rest with
    | some (exponent, rest) =>
        .ok (.real (.ofDecimal negative (Text.toNat (whole ++ fraction)) (exponent - fraction.length)),
          rest)
    | none =>
        if !fraction.isEmpty then
          .ok (.real (.ofDecimal negative (Text.toNat (whole ++ fraction)) (-fraction.length)), rest)
        else if digitLimit < whole.length then .error (.tooManyDigits whole.length)
        else .ok (.int (signed negative whole), rest)

def readNumber (text : Text) : Reading Value :=
  match text with
  | '-' :: rest => unsignedNumber true text rest
  | _ => unsignedNumber false text text

/-- The values that are written as words. -/
def wordValues : List (Text × Value) :=
  [("null".toList, .null), ("true".toList, .bool true), ("false".toList, .bool false),
   ("NaN".toList, .real .notANumber), ("Infinity".toList, .real (.infinite false)),
   ("-Infinity".toList, .real (.infinite true))]

/-- The value at the start of a text that is neither a string nor a container. -/
def readAtom (text : Text) : Reading Value :=
  match wordValues.find? (fun named => named.1.isPrefixOf text) with
  | some (word, value) => .ok (value, text.drop word.length)
  | none => readNumber text

mutual

/-- The value at the start of a text. Every level of nesting, and every item, takes one off `fuel`. -/
def readValue (fuel : Nat) (text : Text) : Reading Value :=
  match fuel with
  | 0 => complain .value text
  | fuel + 1 =>
      match text with
      | '"' :: rest => (readString rest).map (fun (text, rest) => (.string text, rest))
      | '[' :: rest =>
          match skipSpace rest with
          | ']' :: rest => .ok (.array [], rest)
          | rest => (readItems fuel rest).map (fun (items, rest) => (.array items, rest))
      | '\x7b' :: rest =>
          match skipSpace rest with
          | '\x7d' :: rest => .ok (.object [], rest)
          | rest =>
              (readFields fuel rest).map (fun (fields, rest) => (.object (ofFields fields), rest))
      | _ => readAtom text

/-- The items of an array, up to its closing bracket. -/
def readItems (fuel : Nat) (text : Text) : Reading (List Value) :=
  match fuel with
  | 0 => complain .value text
  | fuel + 1 =>
      match readValue fuel text with
      | .error stop => .error stop
      | .ok (item, rest) =>
          match skipSpace rest with
          | ']' :: rest => .ok ([item], rest)
          | ',' :: rest =>
              (readItems fuel (skipSpace rest)).map (fun (items, rest) => (item :: items, rest))
          | rest => complain .comma rest

/-- The fields of an object, up to its closing brace. -/
def readFields (fuel : Nat) (text : Text) : Reading (List (Text × Value)) :=
  match fuel with
  | 0 => complain .value text
  | fuel + 1 =>
      match text with
      | '"' :: rest =>
          match readString rest with
          | .error stop => .error stop
          | .ok (name, rest) =>
              match skipSpace rest with
              | ':' :: rest =>
                  match readValue fuel (skipSpace rest) with
                  | .error stop => .error stop
                  | .ok (value, rest) =>
                      match skipSpace rest with
                      | '\x7d' :: rest => .ok ([(name, value)], rest)
                      | ',' :: rest =>
                          (readFields fuel (skipSpace rest)).map
                            (fun (fields, rest) => ((name, value) :: fields, rest))
                      | rest => complain .comma rest
              | rest => complain .colon rest
      | _ => complain .name text

end

/-- Why a text is not one JSON value. -/
inductive ReadError where
  | malformed (complaint : Complaint) (line column position : Nat)
  | tooManyDigits (count : Nat)
  | tooDeep (enclosure : Enclosure)
  deriving DecidableEq, Repr

def tooManyDigitsMessage (count : Nat) : Text :=
  "Exceeds the limit (".toList ++ Text.ofNat digitLimit ++
    " digits) for integer string conversion: value has ".toList ++ Text.ofNat count ++
    " digits; use sys.set_int_max_str_digits() to increase the limit".toList

def ReadError.message : ReadError → Text
  | .malformed complaint line column position =>
      complaint.message ++ ": line ".toList ++ Text.ofNat line ++ " column ".toList ++
        Text.ofNat column ++ " (char ".toList ++ Text.ofNat position ++ ")".toList
  | .tooManyDigits count => tooManyDigitsMessage count
  | .tooDeep enclosure =>
      "maximum recursion depth exceeded while decoding a JSON ".toList ++ enclosure.name ++
        " from a unicode string".toList

/-- The error of a stop, located by line and column. -/
def Stop.locate (text : Text) : Stop → ReadError
  | .malformed complaint left =>
      let position := text.length - left
      let before := text.take position
      .malformed complaint (before.count '\n' + 1)
        ((before.reverse.takeWhile (· != '\n')).length + 1) position
  | .tooManyDigits count => .tooManyDigits count

/-- The one value of a text, with white space around it. -/
def readWhole (text : Text) : Except Stop Value :=
  match text with
  | '\ufeff' :: rest => .error (.malformed .byteOrderMark (rest.length + 1))
  | _ =>
      match readValue (2 * text.length + 2) (skipSpace text) with
      | .error stop => .error stop
      | .ok (value, rest) =>
          match skipSpace rest with
          | [] => .ok value
          | rest => .error (.malformed .extraData rest.length)

/-- The JSON value of a text, however deep. -/
def parse (text : Text) : Except ReadError Value :=
  (readWhole text).mapError (Stop.locate text)

/-- What stops the reader of a text right after a bracket: a fault before that place, or the level that
the bracket opens. -/
def stopBefore (position : Nat) (enclosure : Enclosure) (text : Text) : ReadError :=
  match parse (text.take position) with
  | .error (.malformed complaint line column place) =>
      if place < position then .malformed complaint line column place else .tooDeep enclosure
  | .error error => error
  | .ok _ => .tooDeep enclosure

/-- Reads a text with room for so many levels. -/
def load (text : Text) (room : Nat := nestingLimit) : Except ReadError Value :=
  match overflow? room false 0 text with
  | some (enclosure, position) => .error (stopBefore position enclosure text)
  | none => parse text

end ScriptDocs.Json
