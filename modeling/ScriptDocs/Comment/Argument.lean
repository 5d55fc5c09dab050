import ScriptDocs.Document.Basic
import ScriptDocs.Text.Blank

namespace ScriptDocs.Comment

/-!
Argument lines of a function's comment: a number or a star, a colon and a description. Words that name
a type or mark the argument optional are taken out of the description, wherever they stand.
-/

/-- The index that stands for all remaining arguments. -/
def wildcardIndex : Text := ['*']

def optionalWord : Text := "[Optional]".toList

def typeOfWord? (word : Text) : Option ValueType :=
  if word == "(Boolean)".toList then some .boolean
  else if word == "(Number)".toList then some .number
  else if word == "(String)".toList then some .string
  else none

/-- The index that a line starts with, and what follows the colon after it. -/
def splitIndex? (line : Text) : Option (Text × Text) :=
  match line with
  | '*' :: ':' :: rest => some (wildcardIndex, rest)
  | _ =>
      match line.dropWhile Text.isDigit with
      | ':' :: rest =>
          let index := line.takeWhile Text.isDigit
          if index.isEmpty then none else some (index, rest)
      | _ => none

/-- What one word of the description adds to an argument. -/
def addWord (argument : Argument × List Text) (word : Text) : Argument × List Text :=
  match typeOfWord? word with
  | some type => ({ argument.1 with type }, argument.2)
  | none =>
      if word == optionalWord then ({ argument.1 with isOptional := true }, argument.2)
      else (argument.1, argument.2 ++ [word])

/-- The argument that an index and the words of a description stand for. -/
def argumentOf (index : Text) (words : List Text) : Argument :=
  let (argument, kept) := words.foldl addWord ({ index }, [])
  let described := { argument with desc := Text.joinWith [' '] kept }
  if index == wildcardIndex then { described with isWildcard := true, type := .unknown }
  else described

/-- The argument that a line declares; the description ends with the line. -/
def readArgument (line : Text) : Option Argument :=
  (splitIndex? line).map (fun (index, rest) =>
    argumentOf index (Text.words (rest.takeWhile (· != '\n'))))

end ScriptDocs.Comment
