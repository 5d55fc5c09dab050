import ScriptDocs.FileTree.Basic
import ScriptDocs.Log.Record
import ScriptDocs.Settings.Basic
import ScriptDocs.Settings.Decoding
import ScriptDocs.Value.Literal

namespace ScriptDocs.Settings

/-!
Loading settings from a file and the environment. Whatever is wrong with the file or with one of its
entries is a problem: in strict mode the first problem ends the loading, in lenient mode each is warned
about and the default stays. Other things stop the loading in either mode.
-/

/-- What is wrong with settings. -/
inductive Problem where
  | notFound (path : Text)
  | unreadable (path : Text) (failure : FileTree.Failure)
  | malformed (path detail : Text)
  | notMapping (kind : Text)
  | unknownKey (key : Text)
  | badLevel (value : Text)
  | badIndent (literal : Text)
  | badExtensions
  deriving DecidableEq, Repr

def Problem.message : Problem → Text
  | .notFound path => "Settings file not found: ".toList ++ path
  | .unreadable path failure =>
      "Failed to read settings file ".toList ++ path ++ ": ".toList ++ failure.message
  | .malformed path detail =>
      "Failed to parse settings file ".toList ++ path ++ ": ".toList ++ detail
  | .notMapping kind => "Unexpected settings payload type: ".toList ++ kind
  | .unknownKey key => "Unknown settings key '".toList ++ key ++ "'".toList
  | .badLevel value => "Invalid log_level '".toList ++ value ++ "'".toList
  | .badIndent literal =>
      "json_indent must be a non-negative integer, got ".toList ++ literal
  | .badExtensions => "script_extensions must be a list of strings".toList

/-- Why loading gives no settings. -/
inductive LoadError where
  | problem (problem : Problem)
  | nullByte
  | waiting
  | notUtf8 (fault : Utf8.Fault)
  | obstacle (obstacle : Obstacle)
  | overlong
  | tooDeep
  deriving DecidableEq, Repr

def LoadError.message : LoadError → Text
  | .problem cause => cause.message
  | .nullByte => FileTree.Failure.nullByte.message
  | .waiting => FileTree.Failure.waiting.message
  | .notUtf8 fault => fault.message
  | .obstacle cause => cause.message
  | .overlong => Json.overlongMessage
  | .tooDeep =>
      "maximum recursion depth exceeded while getting the repr of an object".toList

/-- A part of the loading: the problems that were tolerated, and what came of it. -/
structure Attempt (α : Type) where
  tolerated : List Problem
  outcome : Except LoadError α

namespace Attempt

def done {α : Type} (result : α) : Attempt α :=
  ⟨[], .ok result⟩

def stop {α : Type} (error : LoadError) : Attempt α :=
  ⟨[], .error error⟩

def andThen {α β : Type} (first : Attempt α) (next : α → Attempt β) : Attempt β :=
  match first.outcome with
  | .error error => ⟨first.tolerated, .error error⟩
  | .ok result =>
      let second := next result
      ⟨first.tolerated ++ second.tolerated, second.outcome⟩

/-- A problem: in strict mode it stops the loading, else it is tolerated and something else stands for
what was wrong. -/
def fail {α : Type} (strict : Bool) (problem : Problem) (otherwise : α) : Attempt α :=
  if strict then stop (.problem problem) else ⟨[problem], .ok otherwise⟩

end Attempt

/-- What a settings file gives: the mapping of a number in a pool. -/
structure Payload where
  pool : Pool
  number : Nat
  deriving DecidableEq, Repr

namespace Payload

def empty : Payload :=
  let (pool, number) := Pool.add {} (.mapping [])
  { pool, number }

def entries (payload : Payload) : Entries :=
  payload.pool.entries payload.number

def set (payload : Payload) (key value : Item) : Payload :=
  { payload with pool := payload.pool.setEntry payload.number key value }

end Payload

/-- The mapping that content is. -/
def payloadOf (strict : Bool) (content : Content) : Attempt Payload :=
  let mismatch := Attempt.fail strict (.notMapping content.kindName) Payload.empty
  match content.item with
  | .atom .null => .done .empty
  | .container number =>
      if (content.pool.get number).isMapping then .done { pool := content.pool, number }
      else mismatch
  | _ => mismatch

def decodePayload (decoders : Decoders) (strict : Bool) (path text : Text) : Attempt Payload :=
  match decoders.forPath path text with
  | .ok content => payloadOf strict content
  | .error (.malformed detail) => .fail strict (.malformed path detail) .empty
  | .error (.obstacle obstacle) => .stop (.obstacle obstacle)

def readPayload (decoders : Decoders) (volume : FileTree.Volume) (strict : Bool) (path : Text) :
    Attempt Payload :=
  let path := Path.tidy path
  match volume.read path with
  | .error .nullByte => .stop .nullByte
  | .error .waiting => .stop .waiting
  | .error (.system .noEntry _) => .fail strict (.notFound path) .empty
  | .error failure => .fail strict (.unreadable path failure) .empty
  | .ok content =>
      match Utf8.decode content with
      | .error fault => .stop (.notUtf8 fault)
      | .ok text => decodePayload decoders strict path (Text.unifyNewlines text)

inductive Field where
  | logLevel
  | outputDirectory
  | jsonIndent
  | scriptExtensions
  deriving DecidableEq, Repr

namespace Field

def key : Field → Text
  | .logLevel => "log_level".toList
  | .outputDirectory => "output_dir".toList
  | .jsonIndent => "json_indent".toList
  | .scriptExtensions => "script_extensions".toList

def ofKey? : Item → Option Field
  | .atom (.text key) =>
      [logLevel, outputDirectory, jsonIndent, scriptExtensions].find? (fun field => field.key == key)
  | _ => none

end Field

/-- A payload with a field set from the environment, unless the variable is unset or empty. -/
def override (field : Field) (variableText : Option Text) (payload : Payload) : Payload :=
  match variableText with
  | none => payload
  | some [] => payload
  | some text => payload.set (.text field.key) (.text text)

/-- Goes on with the tree of an item that is to be shown: it must be neither too deep nor overlong. -/
def withTree {α : Type} (pool : Pool) (item : Item) (next : Value → Attempt α) : Attempt α :=
  match pool.tree? item with
  | none => .stop .tooDeep
  | some value => if value.isOverlong then .stop .overlong else next value

/-- An extension with its dot. -/
def dotted : Text → Text
  | '.' :: rest => '.' :: rest
  | extension => '.' :: extension

/-- Settings with a field set to an item, if the item fits. -/
def setField (strict : Bool) (pool : Pool) (settings : Settings) (field : Field) (item : Item) :
    Attempt Settings :=
  match field with
  | .logLevel =>
      withTree pool item (fun value =>
        let level := Text.capitals (Text.trimBlank value.plainText)
        if levels.contains level then .done { settings with logLevel := level }
        else .fail strict (.badLevel value.plainText) settings)
  | .outputDirectory =>
      withTree pool item (fun value => .done { settings with outputDirectory := value.plainText })
  | .jsonIndent =>
      match item with
      | .atom (.int (.ofNat indent)) => .done { settings with jsonIndent := indent }
      | item => withTree pool item (fun value => .fail strict (.badIndent value.literal) settings)
  | .scriptExtensions =>
      match pool.texts? item with
      | some extensions => .done { settings with scriptExtensions := extensions.map dotted }
      | none => .fail strict .badExtensions settings

def setEntry (strict : Bool) (pool : Pool) (settings : Settings) (key item : Item) :
    Attempt Settings :=
  match Field.ofKey? key with
  | some field => setField strict pool settings field item
  | none =>
      withTree pool key (fun value => .fail strict (.unknownKey value.plainText) settings)

/-- Settings with entries taken in, one after the other. -/
def setEntries (strict : Bool) (pool : Pool) (settings : Settings) : Entries → Attempt Settings
  | [] => .done settings
  | (key, item) :: rest =>
      (setEntry strict pool settings key item).andThen
        (fun settings => setEntries strict pool settings rest)

/-- The settings that a file, if there is one, and the environment give. -/
def resolve (decoders : Decoders) (volume : FileTree.Volume) (environment : Environment)
    (path : Text) (strict : Bool) : Attempt Settings :=
  let file := if path.isEmpty then .done .empty else readPayload decoders volume strict path
  file.andThen (fun payload =>
    let payload := override .logLevel environment.logLevel payload
    let payload := override .outputDirectory environment.outputDirectory payload
    setEntries strict payload.pool {} payload.entries)

def warning (problem : Problem) : Log.Record :=
  { level := Log.warning, logger := Log.settings,
    message := problem.message ++ "; continuing with defaults".toList }

def resolvedRecord (settings : Settings) : Log.Record :=
  { level := Log.debug, logger := Log.settings,
    message := "Resolved settings: ".toList ++ settings.text }

/-- Loads settings, with the warnings on the way. An empty path names no file; without `strict` the
environment decides. -/
def loadQuietlyWith (decoders : Decoders) (volume : FileTree.Volume) (environment : Environment)
    (path : Text) (strict : Option Bool) : Except LoadError Settings × List Log.Record :=
  let attempt :=
    resolve decoders volume environment path (strict.getD (environment.isStrict false))
  (attempt.outcome, attempt.tolerated.map warning)

/-- Loads settings, with all records that are logged on the way. The last one shows the settings, and
is left out if their indent is overlong. -/
def loadWith (decoders : Decoders) (volume : FileTree.Volume) (environment : Environment)
    (path : Text) (strict : Option Bool) : Except LoadError Settings × List Log.Record :=
  match loadQuietlyWith decoders volume environment path strict with
  | (.error error, warnings) => (.error error, warnings)
  | (.ok settings, warnings) =>
      if (Atom.int settings.jsonIndent).isOverlong then (.ok settings, warnings)
      else (.ok settings, warnings ++ [resolvedRecord settings])

/-- Loads settings from files in the standard formats. -/
def load (volume : FileTree.Volume) (environment : Environment) (path : Text)
    (strict : Option Bool) : Except LoadError Settings × List Log.Record :=
  loadWith {} volume environment path strict

end ScriptDocs.Settings
