import ScriptDocs.Text.Basic

namespace ScriptDocs.Text

/-!
Letter case, as far as it can lead to an ASCII letter. Texts are raised or lowered here only to be
compared with ASCII words, so every other character is left as it is: raising or lowering it could
not make it equal to a letter of such a word.
-/

/-- The capitals of a character whose upper case is ASCII; any other character stands for itself. -/
def capitalsOf (c : Char) : Text :=
  if 'a' ≤ c ∧ c ≤ 'z' then [Char.ofNat (c.toNat - 32)]
  else match c with
    | 'ß' => ['S', 'S']
    | 'ı' => ['I']
    | 'ſ' => ['S']
    | 'ﬀ' => ['F', 'F']
    | 'ﬁ' => ['F', 'I']
    | 'ﬂ' => ['F', 'L']
    | 'ﬃ' => ['F', 'F', 'I']
    | 'ﬄ' => ['F', 'F', 'L']
    | 'ﬅ' => ['S', 'T']
    | 'ﬆ' => ['S', 'T']
    | other => [other]

/-- The text with its ASCII-capitalised letters raised. -/
def capitals (text : Text) : Text :=
  text.flatMap capitalsOf

/-- The small letter of a character whose lower case is ASCII; any other character is its own. -/
def smallOf (c : Char) : Char :=
  if 'A' ≤ c ∧ c ≤ 'Z' then Char.ofNat (c.toNat + 32)
  else if c.toNat == 0x212A then 'k'
  else c

def small (text : Text) : Text :=
  text.map smallOf

/-- The letter a character is compared as when case is ignored: the long s counts as an s. -/
def foldCase (c : Char) : Char :=
  if c == 'ſ' then 's' else smallOf c

end ScriptDocs.Text
