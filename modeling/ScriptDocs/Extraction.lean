import ScriptDocs.Comment.Function
import ScriptDocs.Comment.Pending
import ScriptDocs.Document.Builder
import ScriptDocs.Script.LineKind
import ScriptDocs.Script.Lines

namespace ScriptDocs.Extraction

/-!
Extraction reads a script once, line by line, and collects its document. The first line is skipped;
comment lines gather in a pending block; an empty line or a code line closes it. A documented
assignment whose value opens a string keeps the state open until a line ends in a quote, so every
step depends only on the state before it and the extraction is a fold over the lines.
-/

/-- Why a comment block, or the entity it describes, was left out. -/
inductive Note where
  | orphaned (line : Nat)
  | privateMethod (name : Text) (line : Nat)
  | bareMethod (name : Text)
  | afterMethods (kind : Script.EntityKind) (name : Text)
  | privateVariable (kind : Script.EntityKind) (name : Text) (line : Nat)
  | bareVariable (kind : Script.EntityKind) (name : Text)
  deriving DecidableEq, Repr

def Note.message : Note → Text
  | .orphaned line => "Dropping orphaned comment block before line ".toList ++ Text.ofNat line
  | .privateMethod name line =>
      "Skipping private method ".toList ++ name ++ " at line ".toList ++ Text.ofNat line
  | .bareMethod name => "Skipping method ".toList ++ name ++ " without description".toList
  | .afterMethods kind name =>
      "Ignoring ".toList ++ kind.name ++ " ".toList ++ name ++ " after methods section".toList
  | .privateVariable kind name line =>
      "Skipping private ".toList ++ kind.name ++ " ".toList ++ name ++ " at line ".toList ++
        Text.ofNat line
  | .bareVariable kind name =>
      "Skipping ".toList ++ kind.name ++ " ".toList ++ name ++ " without description".toList

/-- An assignment whose quoted value goes on in the lines to come. -/
structure OpenValue where
  entity : Variable
  kind : Script.EntityKind
  deriving DecidableEq, Repr

/-- What is known after some lines of a script. -/
structure State where
  lineNumber : Nat := 0
  pending : Comment.Pending := {}
  openValue : Option OpenValue := none
  document : Document
  notes : List Note := []
  deriving DecidableEq, Repr

namespace State

def start (title : Text) : State where
  document := { title }

def note (state : State) (note : Note) : State :=
  { state with notes := state.notes ++ [note] }

/-- Adds a variable whose value is complete. -/
def addVariable (state : State) (entity : Variable) (kind : Script.EntityKind) : State :=
  match state.document.addVariable entity kind with
  | (true, document) => { state with document }
  | (false, _) => state.note (.bareVariable kind entity.name)

/-- Adds a function and opens the section after which assignments no longer count. -/
def addMethod (state : State) (method : Method) : State :=
  let state := { state with pending := { state.pending with methodsSeen := true } }
  match state.document.addMethod method with
  | (true, document) => { state with document }
  | (false, _) => state.note (.bareMethod method.name)

/-- Attaches a non-empty block to the function defined on the current line. -/
def declareMethod (state : State) (name : Text) (block : List Text) : State :=
  match Comment.readMethod name block with
  | none => state.note (.privateMethod name state.lineNumber)
  | some method => state.addMethod { method with line := state.lineNumber }

/-- Attaches a non-empty block to the assignment made on the current line. -/
def declareVariable (state : State) (kind : Script.EntityKind) (name value : Text)
    (block : List Text) : State :=
  if state.pending.methodsSeen then state.note (.afterMethods kind name)
  else
    match Comment.readVariable name value block with
    | none => state.note (.privateVariable kind name state.lineNumber)
    | some found =>
        let entity := { found with line := state.lineNumber }
        if Comment.opensString entity.value then
          { state with openValue := some { entity, kind } }
        else
          state.addVariable entity kind

/-- Closes the pending block at a code line and attaches it to what the line declares. -/
def codeLine (state : State) (line : Text) : State :=
  let (block, pending) := state.pending.take
  let state := { state with pending }
  if block.isEmpty then state
  else
    match Script.classify line with
    | .unrecognized => state.note (.orphaned state.lineNumber)
    | .method name => state.declareMethod name block
    | .variable name value => state.declareVariable .variable name value block
    | .constant name value => state.declareVariable .constant name value block

/-- Closes the pending block at an empty line. The first block closed so is the about text. -/
def blankLine (state : State) : State :=
  let aboutOpen := !state.pending.aboutClaimed && !state.document.isValid
  let (block, pending) := state.pending.take
  let state := { state with pending }
  if !block.isEmpty && aboutOpen then { state with document := state.document.setAbout block }
  else state

/-- Takes in a line that no open value claims. -/
def scanLine (state : State) (line : Text) : State :=
  match Script.lineKind line with
  | .lintDirective => state
  | .blank => state.blankLine
  | .bareMarker => { state with pending := state.pending.appendBreak }
  | .comment => { state with pending := state.pending.append (Script.commentText line) }
  | .code => state.codeLine line

/-- Adds a line to an open value, which a final quote completes. -/
def continueValue (state : State) (value : OpenValue) (line : Text) : State :=
  let entity := { value.entity with value := value.entity.value ++ line }
  if line.getLast? == some '"' then
    { state with openValue := none }.addVariable entity value.kind
  else
    { state with openValue := some { value with entity } }

/-- Takes in the next line. -/
def step (state : State) (line : Text) : State :=
  let state := { state with lineNumber := state.lineNumber + 1 }
  match state.openValue with
  | some value => state.continueValue value line
  | none =>
      if state.lineNumber == 1 then state else state.scanLine (Text.trimLeft ' ' line)

/-- Completes a value that is still open when the script ends. -/
def finish (state : State) : State :=
  match state.openValue with
  | some value => { state with openValue := none }.addVariable value.entity value.kind
  | none => state

end State

/-- The state after all lines of a script. -/
def run (title : Text) (lines : List Text) : State :=
  (lines.foldl State.step (State.start title)).finish

/-- The document of a script, and notes on what was left out, in order. -/
def extract (title text : Text) : Document × List Note :=
  let state := run title (Script.linesOf text)
  (state.document, state.notes)

end ScriptDocs.Extraction
