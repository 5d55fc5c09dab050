import ScriptDocs.Comment.Block
import ScriptDocs.Document.Basic
import ScriptDocs.Script.Declaration

namespace ScriptDocs.Document

/-!
Building a document in the order of the script. An entity is added only with a description, and the
about text is set only if something of it is left after cleaning.
-/

/-- Sets the about text to the cleaned lines, if there are any. -/
def setAbout (document : Document) (lines : List Text) : Document :=
  match Comment.clean lines with
  | [] => document
  | about => { document with about := some about }

/-- Adds a described function and says whether it was. -/
def addMethod (document : Document) (method : Method) : Bool × Document :=
  if method.desc.isEmpty then (false, document)
  else (true, { document with methods := document.methods ++ [method] })

/-- Adds a described constant or variable and says whether it was; what is no constant is a variable. -/
def addVariable (document : Document) (entity : Variable) (kind : Script.EntityKind) :
    Bool × Document :=
  if entity.desc.isEmpty then (false, document)
  else if kind == .constant then
    (true, { document with constants := document.constants ++ [entity] })
  else
    (true, { document with vars := document.vars ++ [entity] })

end ScriptDocs.Document
