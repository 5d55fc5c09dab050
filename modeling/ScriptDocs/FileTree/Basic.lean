import ScriptDocs.FileTree.Failure
import ScriptDocs.FileTree.Path
import ScriptDocs.Text.Utf8

namespace ScriptDocs.FileTree

/-!
A tree of files: directories with named entries, regular files, symbolic links and named pipes. A
volume is such a tree with a working directory. Paths are resolved step by step, following links, to
an entry or to a vacant place in a directory.
-/

/-- What opening a file meets: it may be read, it may be written only, or it cannot be opened at all. -/
inductive Access where
  | readable
  | unreadable
  | failing
  deriving DecidableEq, Repr

inductive Entry where
  | file (content : List UInt8) (access : Access)
  | directory (children : List (Text × Entry))
  | link (target : Text)
  | pipe
  deriving Inhabited

/-- A place in a tree: the names on the way from the root. -/
abbrev Place := List Text

def child? (children : List (Text × Entry)) (name : Text) : Option Entry :=
  (children.find? (fun named => named.1 == name)).map Prod.snd

def setChild (name : Text) (entry : Entry) : List (Text × Entry) → List (Text × Entry)
  | [] => [(name, entry)]
  | (other, old) :: rest =>
      if other == name then (name, entry) :: rest else (other, old) :: setChild name entry rest

namespace Entry

/-- The entry at a place, without following links. -/
def at? : Entry → Place → Option Entry
  | entry, [] => some entry
  | .directory children, name :: rest =>
      match child? children name with
      | some entry => entry.at? rest
      | none => none
  | _, _ :: _ => none

/-- The tree with an entry put at a place; what is no directory is left as it is. -/
def put : Entry → Place → Entry → Entry
  | _, [], new => new
  | .directory children, name :: rest, new =>
      .directory
        (setChild name (put ((child? children name).getD (.directory [])) rest new) children)
  | entry, _ :: _, _ => entry

def isDirectory : Entry → Bool
  | .directory _ => true
  | _ => false

def isFile : Entry → Bool
  | .file _ _ => true
  | _ => false

mutual

/-- The regular files of a tree with their places, links not followed. -/
def regularFiles (here : Place) : Entry → List (Place × List UInt8)
  | .file content _ => [(here, content)]
  | .directory children => regularFilesIn here children
  | .link _ => []
  | .pipe => []

def regularFilesIn (here : Place) : List (Text × Entry) → List (Place × List UInt8)
  | [] => []
  | (name, entry) :: rest => entry.regularFiles (here ++ [name]) ++ regularFilesIn here rest

end

end Entry

/-- A tree with the directory from which relative paths are taken. -/
structure Volume where
  root : Entry
  workingDirectory : Place := []
  deriving Inhabited

/-- Where a path leads: to an entry, or to a place in a directory where nothing is. A separator at the
end of the path says that only a directory can be there. -/
inductive Target where
  | existing (place : Place) (entry : Entry)
  | vacant (place : Place) (asDirectory : Bool)

/-- The most links that one path may follow. -/
def linkLimit : Nat := 40

/-- The most bytes of a name. -/
def nameLimit : Nat := 255

/-- The bytes from which on a path is too long. -/
def pathLimit : Nat := 4096

/-- Takes the steps of a path from a place, as far as no link is followed: from there on `onward` takes
them. The last step is followed only if `follow` says so, every other link always. A separator at the end
makes no step. -/
def walkBy (root : Entry) (follow : Bool) (onward : Place → List Text → Except Errno Target)
    (here : Place) : List Text → Except Errno Target
  | [] =>
      match root.at? here with
      | some entry => .ok (.existing here entry)
      | none => .error .noEntry
  | step :: rest =>
      match root.at? here with
      | some (.directory children) =>
          if Path.isIdle step then walkBy root follow onward here rest
          else if step == ['.', '.'] then walkBy root follow onward here.dropLast rest
          else if nameLimit < (Utf8.encode step).length then .error .nameTooLong
          else
            match child? children step with
            | none =>
                if rest.all List.isEmpty then .ok (.vacant (here ++ [step]) (!rest.isEmpty))
                else .error .noEntry
            | some entry =>
                if !follow && rest.all List.isEmpty then .ok (.existing (here ++ [step]) entry)
                else
                  match entry with
                  | .link target =>
                      onward (if Path.isAbsolute target then [] else here) (Path.steps target ++ rest)
                  | _ => walkBy root follow onward (here ++ [step]) rest
      | some _ => .error .notDirectory
      | none => .error .noEntry

/-- Takes the steps of a path from a place and follows no more than `links` links. -/
def walk (root : Entry) (follow : Bool) : (links : Nat) → Place → List Text → Except Errno Target
  | 0 => walkBy root follow (fun _ _ => .error .tooManyLinks)
  | links + 1 => walkBy root follow (walk root follow links)

namespace Volume

/-- Where a path leads. -/
def resolve (volume : Volume) (follow : Bool) (path : Text) : Except Failure Target :=
  if path.contains (Char.ofNat 0) then .error .nullByte
  else if path.isEmpty then .error (.system .noEntry path)
  else if pathLimit ≤ (Utf8.encode path).length then .error (.system .nameTooLong path)
  else
    let start := if Path.isAbsolute path then [] else volume.workingDirectory
    (walk volume.root follow linkLimit start (Path.steps path)).mapError (Failure.system · path)

def entry? (volume : Volume) (path : Text) : Option Entry :=
  match volume.resolve true path with
  | .ok (.existing _ entry) => some entry
  | _ => none

def exists? (volume : Volume) (path : Text) : Bool :=
  (volume.entry? path).isSome

def isDirectory (volume : Volume) (path : Text) : Bool :=
  (volume.entry? path).any Entry.isDirectory

def workingPath (volume : Volume) : Text :=
  Path.separator :: Text.joinWith [Path.separator] volume.workingDirectory

def absolute (volume : Volume) (path : Text) : Text :=
  Path.absolute volume.workingPath path

/-- The bytes of the file that a path leads to. -/
def read (volume : Volume) (path : Text) : Except Failure (List UInt8) :=
  match volume.resolve true path with
  | .error failure => .error failure
  | .ok (.vacant _ _) => .error (.system .noEntry path)
  | .ok (.existing _ (.file content .readable)) => .ok content
  | .ok (.existing _ (.file _ .unreadable)) => .error (.system .accessDenied path)
  | .ok (.existing _ (.file _ .failing)) => .error (.system .inputOutput path)
  | .ok (.existing _ (.directory _)) => .error (.system .isDirectory path)
  | .ok (.existing _ _) => .error .waiting

def put (volume : Volume) (place : Place) (entry : Entry) : Volume :=
  { volume with root := volume.root.put place entry }

/-- Writes a file, in place of the one there may be. -/
def write (volume : Volume) (path : Text) (content : List UInt8) : Except Failure Volume :=
  match volume.resolve true path with
  | .error failure => .error failure
  | .ok (.vacant place false) => .ok (volume.put place (.file content .readable))
  | .ok (.vacant _ true) => .error (.system .isDirectory path)
  | .ok (.existing _ (.file _ .failing)) => .error (.system .inputOutput path)
  | .ok (.existing place (.file _ access)) => .ok (volume.put place (.file content access))
  | .ok (.existing _ (.directory _)) => .error (.system .isDirectory path)
  | .ok (.existing _ _) => .error .waiting

/-- Makes one directory, where nothing may be yet. -/
def makeDirectory (volume : Volume) (path : Text) : Except Failure Volume :=
  match volume.resolve false path with
  | .error failure => .error failure
  | .ok (.vacant place _) => .ok (volume.put place (.directory []))
  | .ok (.existing _ _) => .error (.system .exists path)

/-- Makes one directory unless the path already leads to one. -/
def ensureDirectory (volume : Volume) (path : Text) : Volume × Except Failure Unit :=
  match volume.makeDirectory path with
  | .ok volume => (volume, .ok ())
  | .error .nullByte => (volume, .error .nullByte)
  | .error failure => (volume, if volume.isDirectory path then .ok () else .error failure)

/-- Makes a directory and those on the way to it, going up at most `depth` levels. What was made
before a failure stays. -/
def ensureDirectoriesUpTo (volume : Volume) : Nat → Text → Volume × Except Failure Unit
  | 0, path => volume.ensureDirectory path
  | depth + 1, path =>
      let (head, tail) :=
        match Path.split path with
        | (head, []) => Path.split head
        | parts => parts
      if head.isEmpty || tail.isEmpty || volume.exists? head then volume.ensureDirectory path
      else
        match volume.ensureDirectoriesUpTo depth head with
        | (volume, .error failure) =>
            match failure with
            | .system .exists _ =>
                if tail == ['.'] then (volume, .ok ()) else volume.ensureDirectory path
            | _ => (volume, .error failure)
        | (volume, .ok ()) =>
            if tail == ['.'] then (volume, .ok ()) else volume.ensureDirectory path

/-- Makes a directory and those on the way to it, where they are missing. -/
def ensureDirectories (volume : Volume) (path : Text) : Volume × Except Failure Unit :=
  volume.ensureDirectoriesUpTo path.length path

end Volume

end ScriptDocs.FileTree
