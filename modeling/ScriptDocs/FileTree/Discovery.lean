import ScriptDocs.FileTree.Basic
import ScriptDocs.Log.Record

namespace ScriptDocs.FileTree

/-!
Discovery of scripts below a directory: every entry that is no directory and has one of the wanted
extensions. Linked directories are not entered, nor those that are hidden or hold generated files.
-/

/-- The directories that are never entered. -/
def skippedDirectories : List Text :=
  ["node_modules".toList, "venv".toList, "__pycache__".toList, "dist".toList, "build".toList,
   "out".toList]

/-- The extensions of scripts, unless others are asked for. -/
def scriptExtensions : List Text :=
  [".bash".toList, ".ksh".toList, ".sh".toList, ".zsh".toList]

def isEntered (name : Text) : Bool :=
  !(name.head? == some '.' || skippedDirectories.contains name)

/-- Whether the entry of this name at a place is a directory once links are followed. -/
def leadsToDirectory (root : Entry) (here : Place) (name : Text) : Bool :=
  match walk root true linkLimit here [name] with
  | .ok (.existing _ entry) => entry.isDirectory
  | _ => false

mutual

/-- The scripts that an entry is or holds; `path` and `here` are those of the directory it is in. -/
def scriptsOf (root : Entry) (extensions : List Text) (path : Text) (here : Place) (name : Text) :
    Entry → List Text
  | .directory children =>
      if isEntered name then
        scriptsIn root extensions (Path.join path name) (here ++ [name]) children
      else []
  | .link _ =>
      if leadsToDirectory root here name then []
      else if extensions.contains (Path.extension name) then [Path.join path name]
      else []
  | .file _ _ => if extensions.contains (Path.extension name) then [Path.join path name] else []
  | .pipe => if extensions.contains (Path.extension name) then [Path.join path name] else []

def scriptsIn (root : Entry) (extensions : List Text) (path : Text) (here : Place) :
    List (Text × Entry) → List Text
  | [] => []
  | (name, entry) :: rest =>
      scriptsOf root extensions path here name entry ++ scriptsIn root extensions path here rest

end

/-- The absolute paths of the scripts below a directory, by code point, and the log of the search. -/
def discover (volume : Volume) (directory : Text) (extensions : List Text) :
    List Text × List Log.Record :=
  let path := volume.absolute directory
  let found :=
    match volume.resolve true path with
    | .ok (.existing place (.directory children)) =>
        scriptsIn volume.root extensions path place children
    | _ => []
  let scripts := found.mergeSort (fun left right => !Text.before right left)
  (scripts,
    [{ level := Log.info, logger := Log.extractor
       message := "Discovering shell scripts in ".toList ++ path },
     { level := Log.info, logger := Log.extractor
       message := "Found ".toList ++ Text.ofNat scripts.length ++ " shell scripts".toList }])

end ScriptDocs.FileTree
