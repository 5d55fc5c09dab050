import ScriptDocs.Comment.Block
import ScriptDocs.Document.Basic

namespace ScriptDocs.Comment

/-!
The type of a variable: named by a fragment such as ` (Number)` in its comment or, failing that,
guessed from the assigned value.
-/

/-- The types an annotation can name, with the word that names each. -/
def annotationWords : List (Text × ValueType) :=
  [("Boolean".toList, .boolean), ("String".toList, .string), ("Number".toList, .number)]

/-- The type named at the very start of a text by a space and a word in parentheses. -/
def annotationAt? (text : Text) : Option ValueType :=
  (annotationWords.find? (fun named => (" (".toList ++ named.1 ++ ")".toList).isPrefixOf text)).map
    Prod.snd

/-- The last annotation of one line of text: what stands before it and the type it names. -/
def lastAnnotation? : Text → Option (Text × ValueType)
  | [] => none
  | c :: rest =>
      match lastAnnotation? rest with
      | some (before, type) => some (c :: before, type)
      | none => (annotationAt? (c :: rest)).map (fun type => ([], type))

/-- The last annotation on the first line of a text. -/
def annotation? (text : Text) : Option (Text × ValueType) :=
  lastAnnotation? (text.takeWhile (· != '\n'))

/-- The lines with the annotation of the first annotated one taken out, and the type it names. -/
def stripMark : List Text → List Text × ValueType
  | [] => ([], .unknown)
  | line :: rest =>
      match annotation? line with
      | some (text, type) => (text :: rest, type)
      | none =>
          let (lines, type) := stripMark rest
          (line :: lines, type)

/-- The cleaned lines without their first annotation, and the type it names. -/
def extractType (lines : List Text) : List Text × ValueType :=
  let (stripped, type) := stripMark lines
  (clean stripped, type)

/-- Whether a value is a run of digits; a final line feed is looked past. -/
def isNumeric (value : Text) : Bool :=
  let digits := Text.dropFinalNewline value
  !digits.isEmpty && digits.all Text.isDigit

/-- The type a value looks like. -/
def guessType (value : Text) : ValueType :=
  if value.isEmpty then .unknown
  else if value == "true".toList then .boolean
  else if isNumeric value then .number
  else .string

/-- Whether a value opens a double-quoted string that it does not close. -/
def opensString (value : Text) : Bool :=
  value.head? == some '"' && value.getLast? != some '"'

/-- The variable that a block and an assigned value document, unless the block is empty or private. -/
def readVariable (name value : Text) (lines : List Text) : Option Variable :=
  if lines.isEmpty || isPrivate lines then none
  else
    let (desc, named) := extractType lines
    let type := if named == .unknown then guessType value else named
    some { name, desc, type, value }

end ScriptDocs.Comment
