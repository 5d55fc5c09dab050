import ScriptDocs.Text.Numeral
import ScriptDocs.Text.Printable

namespace ScriptDocs.Text

/-!
Quoted literals, the form in which messages show a text: single quotes, or double quotes when the
text has single quotes and no double ones, with escapes for whatever is not printable.
-/

/-- The quote that surrounds a text: double only if that saves escaping single ones. -/
def quoteFor (text : Text) : Char :=
  if text.contains '\'' && !text.contains '"' then '"' else '\''

/-- A character by its code, in the shortest of the forms with two, four or eight digits. -/
def escapeCode (c : Char) : Text :=
  let n := c.toNat
  if n ≤ 0xFF then '\\' :: 'x' :: hexFixed 2 n
  else if n ≤ 0xFFFF then '\\' :: 'u' :: hexFixed 4 n
  else '\\' :: 'U' :: hexFixed 8 n

/-- A character inside a literal that is surrounded by `quote`. -/
def escapeIn (quote c : Char) : Text :=
  if c == quote || c == '\\' then ['\\', c]
  else if c == '\t' then ['\\', 't']
  else if c == '\n' then ['\\', 'n']
  else if c == '\r' then ['\\', 'r']
  else if isPrintable c then [c]
  else escapeCode c

/-- The quoted literal of a text. -/
def quoted (text : Text) : Text :=
  let quote := quoteFor text
  quote :: text.flatMap (escapeIn quote) ++ [quote]

end ScriptDocs.Text
