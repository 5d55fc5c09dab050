import ScriptDocs.Document.Basic
import ScriptDocs.Json.Value

namespace ScriptDocs

/-!
Documents as JSON. The fields stand in a fixed order, and what is absent is null.
-/

def Json.ofLines (lines : List Text) : Json.Value :=
  .array (lines.map .string)

def Json.ofOption {α : Type} (write : α → Json.Value) : Option α → Json.Value
  | some a => write a
  | none => .null

def Argument.toJson (argument : Argument) : Json.Value :=
  .object
    [("index".toList, .string argument.index), ("desc".toList, .string argument.desc),
     ("type".toList, .int argument.type.code), ("is_optional".toList, .bool argument.isOptional),
     ("is_wildcard".toList, .bool argument.isWildcard)]

def Variable.toJson (entity : Variable) : Json.Value :=
  .object
    [("name".toList, .string entity.name), ("desc".toList, Json.ofLines entity.desc),
     ("type".toList, .int entity.type.code), ("value".toList, .string entity.value),
     ("line".toList, .int entity.line)]

def Method.toJson (method : Method) : Json.Value :=
  .object
    [("name".toList, .string method.name), ("desc".toList, Json.ofLines method.desc),
     ("arguments".toList, .array (method.arguments.map Argument.toJson)),
     ("result_code".toList, .bool method.resultCode),
     ("result_echo".toList, Json.ofOption Variable.toJson method.resultEcho),
     ("example".toList, Json.ofOption Json.ofLines method.exampleLines),
     ("line".toList, .int method.line)]

def Document.toFields (document : Document) : List (Text × Json.Value) :=
  [("title".toList, .string document.title),
   ("about".toList, Json.ofOption Json.ofLines document.about),
   ("constants".toList, .array (document.constants.map Variable.toJson)),
   ("variables".toList, .array (document.vars.map Variable.toJson)),
   ("methods".toList, .array (document.methods.map Method.toJson))]

end ScriptDocs
