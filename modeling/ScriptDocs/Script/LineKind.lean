import ScriptDocs.Text.Basic

namespace ScriptDocs.Script

/-!
The part a line plays in collecting comments, once its leading spaces are gone. A lint directive is a
comment for another tool; a line of markers alone separates paragraphs; an empty line ends a block.
-/

/-- The part a line plays in collecting comments. -/
inductive LineKind where
  | blank
  | bareMarker
  | comment
  | lintDirective
  | code
  deriving DecidableEq, Repr

def LineKind.name : LineKind → Text
  | .blank => "blank".toList
  | .bareMarker => "bare_marker".toList
  | .comment => "comment".toList
  | .lintDirective => "lint_directive".toList
  | .code => "code".toList

/-- The character that starts a comment. -/
def marker : Char := '#'

/-- What follows `word`, when the text starts with at least one space and then `word`. -/
def afterSpacedWord? (word text : Text) : Option Text :=
  match text with
  | ' ' :: rest => Text.after? word (Text.trimLeft ' ' rest)
  | _ => none

/-- Whether a line tells a lint tool what to ignore. -/
def isLintDirective (line : Text) : Bool :=
  match line with
  | '#' :: rest =>
      match afterSpacedWord? "shellcheck".toList rest with
      | some options => (afterSpacedWord? "disable=".toList options).isSome
      | none => false
  | _ => false

/-- The kind of a line without leading spaces. -/
def lineKind (line : Text) : LineKind :=
  if line.isEmpty then .blank
  else if isLintDirective line then .lintDirective
  else if line.all (· == marker) then .bareMarker
  else if line.head? == some marker then .comment
  else .code

/-- A comment without its marker and the character after it. -/
def commentText (line : Text) : Text :=
  line.drop 2

end ScriptDocs.Script
