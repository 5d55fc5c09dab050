import ScriptDocs.Document.ValueType

namespace ScriptDocs

/-!
Documents: what a script's comments say about its constants, its variables and its functions, in the
order of the script. A document can be given another title or be narrowed down to the entities whose
name has a fragment.
-/

structure Argument where
  index : Text
  desc : Text := []
  type : ValueType := .unknown
  isOptional : Bool := false
  isWildcard : Bool := false
  deriving DecidableEq, Repr

/-- A documented variable or constant, or the value a function echoes. -/
structure Variable where
  name : Text
  desc : List Text := []
  type : ValueType := .unknown
  value : Text := []
  line : Nat := 0
  deriving DecidableEq, Repr

structure Method where
  name : Text
  desc : List Text := []
  arguments : List Argument := []
  resultCode : Bool := false
  resultEcho : Option Variable := none
  exampleLines : Option (List Text) := none
  line : Nat := 0
  deriving DecidableEq, Repr

structure Document where
  title : Text
  about : Option (List Text) := none
  constants : List Variable := []
  vars : List Variable := []
  methods : List Method := []
  deriving DecidableEq, Repr

/-- The lines of a description that have text, in one line. -/
def mergeDesc (lines : List Text) : Text :=
  Text.joinWith [' '] (lines.filter (fun line => !line.isEmpty))

namespace Method

def hasArguments (method : Method) : Bool :=
  !method.arguments.isEmpty

def hasEcho (method : Method) : Bool :=
  method.resultEcho.isSome

def hasExample (method : Method) : Bool :=
  !(method.exampleLines.getD []).isEmpty

end Method

namespace Document

/-- Whether anything is documented. -/
def isValid (document : Document) : Bool :=
  !(document.constants.isEmpty && document.vars.isEmpty && document.methods.isEmpty)

def hasAbout (document : Document) : Bool :=
  !(document.about.getD []).isEmpty

def entityCount (document : Document) : Nat :=
  document.constants.length + document.vars.length + document.methods.length

def withTitle (document : Document) (title : Text) : Document :=
  { document with title }

/-- The entities whose name has the fragment, without the about text. -/
def find (document : Document) (fragment : Text) : Document where
  title := document.title
  constants := document.constants.filter (fun entity => Text.includes fragment entity.name)
  vars := document.vars.filter (fun entity => Text.includes fragment entity.name)
  methods := document.methods.filter (fun entity => Text.includes fragment entity.name)

end Document

end ScriptDocs
