namespace ScriptDocs

/-!
Text as a list of characters, with the few cuts the rest of the library is built from: trimming one
character off an end, splitting at a class of characters, joining, and looking for a fragment.
Positions and lengths count characters.
-/

/-- Text, character by character. -/
abbrev Text := List Char

namespace Text

/-- The text after its leading run of `c`. -/
def trimLeft (c : Char) (text : Text) : Text :=
  text.dropWhile (· == c)

/-- The text before its trailing run of `c`. -/
def trimRight (c : Char) (text : Text) : Text :=
  (text.reverse.dropWhile (· == c)).reverse

/-- The text between its leading and its trailing run of `c`. -/
def trim (c : Char) (text : Text) : Text :=
  trimRight c (trimLeft c text)

/-- The segments between the characters that satisfy `stop`; there is always at least one. -/
def segmentsBy (stop : Char → Bool) : Text → List Text
  | [] => [[]]
  | c :: rest =>
      match stop c, segmentsBy stop rest with
      | true, segments => [] :: segments
      | false, [] => [[c]]
      | false, segment :: segments => (c :: segment) :: segments

def segments (separator : Char) : Text → List Text :=
  segmentsBy (· == separator)

/-- The texts one after the other, with `separator` between neighbours. -/
def joinWith (separator : Text) : List Text → Text
  | [] => []
  | [text] => text
  | text :: rest => text ++ separator ++ joinWith separator rest

/-- Whether `fragment` occurs somewhere in the text. -/
def includes (fragment : Text) : Text → Bool
  | [] => fragment.isEmpty
  | c :: rest => fragment.isPrefixOf (c :: rest) || includes fragment rest

/-- The text up to its last occurrence of `c` and the text after it. -/
def splitLast? (c : Char) (text : Text) : Option (Text × Text) :=
  match text.reverse.dropWhile (· != c) with
  | [] => none
  | _ :: before => some (before.reverse, (text.reverse.takeWhile (· != c)).reverse)

/-- The text without one final line feed, the only one a line-end test looks past. -/
def dropFinalNewline (text : Text) : Text :=
  match text.reverse with
  | '\n' :: before => before.reverse
  | _ => text

/-- The rest of the text after `lead`, when the text starts with it. -/
def after? (lead text : Text) : Option Text :=
  if lead.isPrefixOf text then some (text.drop lead.length) else none

/-- Line ends as a text file is read: a carriage return, alone or before a line feed, is a line feed. -/
def unifyNewlines : Text → Text
  | [] => []
  | '\r' :: '\n' :: rest => '\n' :: unifyNewlines rest
  | c :: rest => (if c == '\r' then '\n' else c) :: unifyNewlines rest

/-- Order by code point. -/
def before : Text → Text → Bool
  | [], [] => false
  | [], _ :: _ => true
  | _ :: _, [] => false
  | a :: left, b :: right => if a == b then before left right else a.toNat < b.toNat

end Text

end ScriptDocs
