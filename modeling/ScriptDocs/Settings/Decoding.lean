import ScriptDocs.FileTree.Path
import ScriptDocs.Json.Reader
import ScriptDocs.Yaml.Node.Value

namespace ScriptDocs.Settings

/-!
Settings files come in two formats. A decoder reads content from a text, finds the text malformed, or
meets an obstacle that no mode of loading gets past.
-/

/-- What stops a decoder for good. -/
inductive Obstacle where
  | tooManyDigits (count : Nat)
  | tooDeep (enclosure : Json.Enclosure)
  | yaml (fault : Yaml.Fault)
  deriving DecidableEq, Repr

def Obstacle.message : Obstacle → Text
  | .tooManyDigits count => (Json.ReadError.tooManyDigits count).message
  | .tooDeep enclosure => (Json.ReadError.tooDeep enclosure).message
  | .yaml fault => fault.message

/-- Why a text gives no content. -/
inductive DecodeError where
  | malformed (detail : Text)
  | obstacle (obstacle : Obstacle)
  deriving DecidableEq, Repr

/-- A reader of one format. -/
abbrev Decoder := Text → Except DecodeError Content

/-- What a fault of a text means for its reader. -/
def DecodeError.ofJson : Json.ReadError → DecodeError
  | .tooManyDigits count => .obstacle (.tooManyDigits count)
  | .tooDeep enclosure => .obstacle (.tooDeep enclosure)
  | error => .malformed error.message

def decodeJson : Decoder := fun text =>
  ((Json.load text).map Content.ofJson).mapError .ofJson

def decodeYaml : Decoder := fun text =>
  match Yaml.parse text with
  | .ok content => .ok content
  | .error .malformed => .error (.malformed Yaml.Fault.malformed.message)
  | .error fault => .error (.obstacle (.yaml fault))

/-- The readers of both formats. -/
structure Decoders where
  json : Decoder := decodeJson
  yaml : Decoder := decodeYaml

/-- The reader for a file: JSON if its suffix says so, YAML otherwise. -/
def Decoders.forPath (decoders : Decoders) (path : Text) : Decoder :=
  if Text.small (Path.suffix path) == ".json".toList then decoders.json else decoders.yaml

end ScriptDocs.Settings
