import ScriptDocs.Text.Basic

namespace ScriptDocs.Comment

/-!
Comment blocks as lists of lines: cleaning them for a description, and the marker on the first line
that hides what follows.
-/

/-- The lines up to the last one that is not empty. -/
def dropTrailingEmpty (lines : List Text) : List Text :=
  (lines.reverse.dropWhile List.isEmpty).reverse

/-- The lines up to the last one that is not empty, each without its trailing spaces. -/
def clean (lines : List Text) : List Text :=
  (dropTrailingEmpty lines).map (Text.trimRight ' ')

/-- The first lines that hide what a block describes. -/
def privacyMarkers : List Text :=
  ["private".toList, "PRIVATE".toList, "-".toList]

/-- Whether a block opens with a privacy marker. -/
def isPrivate : List Text → Bool
  | [] => false
  | first :: _ => privacyMarkers.contains (Text.trimRight ' ' first)

end ScriptDocs.Comment
