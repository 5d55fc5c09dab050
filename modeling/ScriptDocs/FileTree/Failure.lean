import ScriptDocs.Text.Quoted

namespace ScriptDocs.FileTree

/-!
Why an operation on files fails. The system gives a number and a wording for each cause; a path with
a null byte is refused before the system sees it. Opening a pipe does not fail but waits for its other
end, and nothing in a volume ever opens that.
-/

/-- A cause the system reports. -/
inductive Errno where
  | noEntry
  | inputOutput
  | accessDenied
  | exists
  | notDirectory
  | isDirectory
  | nameTooLong
  | tooManyLinks
  deriving DecidableEq, Repr

namespace Errno

def number : Errno → Nat
  | .noEntry => 2
  | .inputOutput => 5
  | .accessDenied => 13
  | .exists => 17
  | .notDirectory => 20
  | .isDirectory => 21
  | .nameTooLong => 36
  | .tooManyLinks => 40

def text : Errno → Text
  | .noEntry => "No such file or directory".toList
  | .inputOutput => "Input/output error".toList
  | .accessDenied => "Permission denied".toList
  | .exists => "File exists".toList
  | .notDirectory => "Not a directory".toList
  | .isDirectory => "Is a directory".toList
  | .nameTooLong => "File name too long".toList
  | .tooManyLinks => "Too many levels of symbolic links".toList

end Errno

/-- Why an operation on a path failed, or never ends. -/
inductive Failure where
  | system (errno : Errno) (path : Text)
  | nullByte
  | waiting
  deriving DecidableEq, Repr

def Failure.message : Failure → Text
  | .system errno path =>
      "[Errno ".toList ++ Text.ofNat errno.number ++ "] ".toList ++ errno.text ++ ": ".toList ++
        Text.quoted path
  | .nullByte => "embedded null byte".toList
  | .waiting => "waiting for the other end of a pipe".toList

end ScriptDocs.FileTree
