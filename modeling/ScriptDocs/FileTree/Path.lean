import ScriptDocs.Text.Basic

namespace ScriptDocs.Path

/-!
Paths as text: joining, splitting and normalising them, and the extensions of file names. A slash
separates the steps of a path, and a leading slash makes it absolute.
-/

def separator : Char := '/'

def isAbsolute (path : Text) : Bool :=
  path.head? == some separator

/-- The steps of a path; repeated separators give empty steps. -/
def steps (path : Text) : List Text :=
  Text.segments separator path

/-- A path below a directory. -/
def join (directory path : Text) : Text :=
  if isAbsolute path then path
  else if directory.isEmpty || directory.getLast? == some separator then directory ++ path
  else directory ++ separator :: path

/-- The last step of a path. -/
def baseName (path : Text) : Text :=
  (path.reverse.takeWhile (· != separator)).reverse

/-- The path before its last step and that step. Slashes at the end of the first part are dropped
unless it has nothing else. -/
def split (path : Text) : Text × Text :=
  let head := (path.reverse.dropWhile (· != separator)).reverse
  let trimmed := Text.trimRight separator head
  (if trimmed.isEmpty then head else trimmed, baseName path)

/-- Whether a step stays where it is. -/
def isIdle (step : Text) : Bool :=
  step.isEmpty || step == ['.']

/-- The leading slashes that normalising keeps: two are kept as they are, three or more are one. -/
def rootOf (path : Text) : Text :=
  match path.takeWhile (· == separator) with
  | [] => []
  | [_, _] => [separator, separator]
  | _ => [separator]

/-- Takes one step in a normalised path whose last step comes first. -/
def stepOnto (rooted : Bool) (visited : List Text) (step : Text) : List Text :=
  if isIdle step then visited
  else if step == ['.', '.'] then
    match visited with
    | [] => if rooted then [] else [step]
    | last :: before => if last == ['.', '.'] then step :: visited else before
  else step :: visited

/-- The path without idle steps and without steps that are taken back. -/
def normalize (path : Text) : Text :=
  let root := rootOf path
  let visited := (steps path).foldl (stepOnto (!root.isEmpty)) []
  match root ++ Text.joinWith [separator] visited.reverse with
  | [] => ['.']
  | text => text

/-- The normalised path from the root, for a path taken from a working directory. -/
def absolute (workingDirectory path : Text) : Text :=
  normalize (join workingDirectory path)

/-- The extension of a file name: its last dot and what follows, unless only dots come before. -/
def extension (name : Text) : Text :=
  match Text.splitLast? '.' name with
  | some (stem, rest) => if stem.all (· == '.') then [] else '.' :: rest
  | none => []

/-- The path as a message shows it: without idle steps, `.` if nothing is left. -/
def tidy (path : Text) : Text :=
  match rootOf path ++ Text.joinWith [separator] ((steps path).filter (fun step => !isIdle step)) with
  | [] => ['.']
  | text => text

/-- The suffix of a path: the last dot of its last step and what follows, if neither side is empty. -/
def suffix (path : Text) : Text :=
  let name := ((steps path).filter (fun step => !isIdle step)).getLast?.getD []
  match Text.splitLast? '.' name with
  | some (stem, rest) => if stem.isEmpty || rest.isEmpty then [] else '.' :: rest
  | none => []

end ScriptDocs.Path
