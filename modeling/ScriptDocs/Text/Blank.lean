import ScriptDocs.Text.Basic

namespace ScriptDocs.Text

/-!
Blank characters: the white space of Unicode together with the four information separators. A word is
a maximal run of characters that are not blank.
-/

/-- Whether a character separates words. -/
def isBlank (c : Char) : Bool :=
  let n := c.toNat
  (9 ≤ n && n ≤ 13) || (28 ≤ n && n ≤ 32) || n == 0x85 || n == 0xA0 || n == 0x1680 ||
    (0x2000 ≤ n && n ≤ 0x200A) || n == 0x2028 || n == 0x2029 || n == 0x202F || n == 0x205F ||
    n == 0x3000

/-- The blank-separated words of a text. -/
def words (text : Text) : List Text :=
  (segmentsBy isBlank text).filter (fun word => !word.isEmpty)

/-- The text without the blanks at its ends. -/
def trimBlank (text : Text) : Text :=
  ((text.dropWhile isBlank).reverse.dropWhile isBlank).reverse

/-- Whether a character can stand around a numeral: a blank that is no information separator. -/
def isSpace (c : Char) : Bool :=
  isBlank c && !(28 ≤ c.toNat && c.toNat ≤ 31)

def trimSpaces (text : Text) : Text :=
  ((text.dropWhile isSpace).reverse.dropWhile isSpace).reverse

end ScriptDocs.Text
