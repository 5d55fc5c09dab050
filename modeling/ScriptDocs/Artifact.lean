import ScriptDocs.Document.Json
import ScriptDocs.FileTree.Basic
import ScriptDocs.Json.Writer
import ScriptDocs.Script.Declaration

namespace ScriptDocs.Artifact

/-!
Written documents: a JSON file named after the title, in an output directory that is made if it is
missing. The name uses only letters, digits, dots, underscores and hyphens.
-/

/-- Whether a character of a title may stand in a file name. -/
def isSafe (c : Char) : Bool :=
  Script.isLetter c || Text.isDigit c || c == '.' || c == '_' || c == '-'

/-- The title with every run of unsafe characters replaced by one underscore. -/
def replaceUnsafe : Bool → Text → Text
  | _, [] => []
  | replaced, c :: rest =>
      if isSafe c then c :: replaceUnsafe false rest
      else if replaced then replaceUnsafe true rest
      else '_' :: replaceUnsafe true rest

def baseName (title : Text) : Text :=
  match Text.trim '_' (replaceUnsafe false title) with
  | [] => "document".toList
  | name => name

def path (title outputDirectory : Text) : Text :=
  Path.join outputDirectory (baseName title ++ ".json".toList)

def stampName : Text := "generated_utc".toList

/-- The fields with the time of writing last, unless there is such a field already. -/
def stamp (clock : Text) (payload : List (Text × Json.Value)) : List (Text × Json.Value) :=
  if Json.hasField stampName payload then payload else payload ++ [(stampName, .string clock)]

/-- The text of a payload that is written whole. -/
def text (clock : Text) (indent : Option Int) (payload : List (Text × Json.Value)) : Text :=
  Json.render indent (.object (stamp clock payload)) ++ ['\n']

inductive WriteError where
  | failed (failure : FileTree.Failure)
  | indentOutOfRange
  | interrupted (cause : Json.Interruption)
  deriving DecidableEq, Repr

def WriteError.message : WriteError → Text
  | .failed failure => failure.message
  | .indentOutOfRange => "cannot fit 'int' into an index-sized integer".toList
  | .interrupted cause => cause.message

/-- An indent has to be an integer of 64 bits. -/
def indentError? (indent : Int) : Option WriteError :=
  if indent < -(Nat.pow 2 63 : Int) || (Nat.pow 2 63 : Int) ≤ indent then some .indentOutOfRange
  else none

/-- What is put into the file of a payload, and what keeps it from being all. An indent that cannot be
used is noticed before the first character. -/
def draft (room : Nat) (clock : Text) (indent : Option Int) (payload : List (Text × Json.Value)) :
    Text × Option WriteError :=
  match indent.bind indentError? with
  | some error => ([], some error)
  | none =>
      match Json.dump indent (.object (stamp clock payload)) room with
      | (written, some cause) => (written, some (.interrupted cause))
      | (written, none) => (written ++ ['\n'], none)

/-- Writes a payload and returns the path of its file. The file is open before anything can be wrong with
the payload, and keeps what was written up to there. -/
def write (volume : FileTree.Volume) (clock : Text) (payload : List (Text × Json.Value))
    (title outputDirectory : Text) (indent : Option Int) (room : Nat := Json.nestingLimit) :
    FileTree.Volume × Except WriteError Text :=
  match volume.ensureDirectories outputDirectory with
  | (volume, .error failure) => (volume, .error (.failed failure))
  | (volume, .ok ()) =>
      let file := path title outputDirectory
      let (content, fault) := draft room clock indent payload
      match volume.write file (Utf8.encode content) with
      | .error failure => (volume, .error (.failed failure))
      | .ok volume =>
          match fault with
          | some error => (volume, .error error)
          | none => (volume, .ok file)

end ScriptDocs.Artifact
