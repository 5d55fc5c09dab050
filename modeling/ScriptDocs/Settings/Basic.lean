import ScriptDocs.FileTree.Discovery
import ScriptDocs.Text.Blank
import ScriptDocs.Text.Case
import ScriptDocs.Text.Quoted

namespace ScriptDocs

/-!
The settings of a run, and the variables of the environment that bear on them.
-/

structure Settings where
  logLevel : Text := "INFO".toList
  outputDirectory : Text := "output/docs".toList
  jsonIndent : Nat := 2
  scriptExtensions : List Text := FileTree.scriptExtensions
  deriving DecidableEq, Repr

/-- The variables of the environment; each may be unset. -/
structure Environment where
  logLevel : Option Text := none
  outputDirectory : Option Text := none
  strict : Option Text := none
  deriving DecidableEq, Repr

/-- The words that switch a flag on, in letters of either case. -/
def flagWords : List Text :=
  ["1".toList, "true".toList, "yes".toList, "on".toList]

/-- Whether settings are to be strict; an unset variable leaves the default. -/
def Environment.isStrict (environment : Environment) (default : Bool) : Bool :=
  match environment.strict with
  | none => default
  | some word => flagWords.contains (Text.small (Text.trimBlank word))

namespace Settings

/-- The names of the levels that can be set. -/
def levels : List Text :=
  ["DEBUG".toList, "INFO".toList, "WARNING".toList, "ERROR".toList, "CRITICAL".toList]

/-- The literal of a list of texts; one that is alone has a comma after it. -/
def textsLiteral : List Text → Text
  | [text] => '(' :: Text.quoted text ++ ",)".toList
  | texts => '(' :: Text.joinWith ", ".toList (texts.map Text.quoted) ++ [')']

def text (settings : Settings) : Text :=
  "ExtractorSettings(log_level=".toList ++ Text.quoted settings.logLevel ++
    ", output_dir=".toList ++ Text.quoted settings.outputDirectory ++
    ", json_indent=".toList ++ Text.ofNat settings.jsonIndent ++
    ", script_extensions=".toList ++ textsLiteral settings.scriptExtensions ++ [')']

end Settings

end ScriptDocs
