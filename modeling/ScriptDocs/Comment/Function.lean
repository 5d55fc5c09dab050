import ScriptDocs.Comment.Annotation
import ScriptDocs.Comment.Argument
import ScriptDocs.Text.Case

namespace ScriptDocs.Comment

/-!
The comment of a function: a description up to the first directive, then argument lines, `Code:` and
`Echo:` lines in any order, and an example that takes up everything after its `Example:` line.
-/

/-- What a line of a function's comment says. -/
inductive Directive where
  | argument (argument : Argument)
  | code (value : Text)
  | echo (value : Text)
  | startExample
  | prose
  deriving DecidableEq, Repr

/-- The value of a directive, which stands one character after its name. -/
def directiveValue? (name line : Text) : Option Text :=
  (Text.after? name line).map (List.drop 1)

/-- What a line says; an argument line is never another directive. -/
def directive (line : Text) : Directive :=
  match readArgument line with
  | some argument => .argument argument
  | none =>
      match directiveValue? "Code:".toList line with
      | some value => .code value
      | none =>
          match directiveValue? "Echo:".toList line with
          | some value => .echo value
          | none => if "Example:".toList.isPrefixOf line then .startExample else .prose

/-- Whether a value starts with a word that declines: `none`, `no`, `not` or `false`, in any case. -/
def isNegative (value : Text) : Bool :=
  ["none".toList, "no".toList, "false".toList].any
    (fun word => word.isPrefixOf (value.map Text.foldCase))

/-- The lines before the first directive. -/
def description (lines : List Text) : List Text :=
  lines.takeWhile (fun line => directive line == .prose)

/-- Adds to a method what the lines from one on say. -/
def applyDirectives (method : Method) : List Text → Method
  | [] => method
  | line :: rest =>
      match directive line with
      | .argument argument =>
          applyDirectives { method with arguments := method.arguments ++ [argument] } rest
      | .code value =>
          applyDirectives
            (if isNegative value then method else { method with resultCode := true }) rest
      | .echo value =>
          applyDirectives
            (if isNegative value then method
             else { method with resultEcho := readVariable [] [] [value] }) rest
      | .startExample =>
          let lines := clean rest
          { method with exampleLines := if lines.isEmpty then none else some lines }
      | .prose => applyDirectives method rest

/-- The function that a block documents, unless the block is empty or private. -/
def readMethod (name : Text) (lines : List Text) : Option Method :=
  if lines.isEmpty || isPrivate lines then none
  else some (applyDirectives { name, desc := clean (description lines) } lines)

end ScriptDocs.Comment
