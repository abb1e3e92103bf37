import CourseLint.Error
import CourseLint.Files.Tree

set_option autoImplicit false

namespace CourseLint

structure Disk where
  root : FileTree
  -- The names that lead from the root to the current directory.
  current : List Text

namespace Disk

def currentPath (disk : Disk) : Path := '/' :: Text.joinWith ['/'] disk.current

def follow (disk : Disk) (names : List Text) (part : Text) : Except ReadFailure (List Text) :=
  match disk.root.at? names with
  | some (.directory entries) =>
    if part = [] ∨ part = ['.'] then .ok names
    else if part = ['.', '.'] then .ok names.dropLast
    else if 255 < Text.width part then .error .nameTooLong
    else if entries.any (·.1 == part) then .ok (names ++ [part])
    else .error .notFound
  | _ => .error .notDirectory

def locate (disk : Disk) (path : Path) : Except ReadFailure (List Text) :=
  if path.contains '\x00' then .error .nulInName
  else if path.isEmpty then .error .notFound
  else if 4096 ≤ Text.width path then .error .nameTooLong
  else
    let start := if Path.isAbsolute path then [] else disk.current
    (Text.splitOn '/' path).foldlM disk.follow start

def node? (disk : Disk) (path : Path) : Option FileTree :=
  match disk.locate path with
  | .ok names => disk.root.at? names
  | .error _ => none

def fileExists (disk : Disk) (path : Path) : Bool := (disk.node? path).isSome

def isDirectory (disk : Disk) (path : Path) : Bool :=
  ((disk.node? path).map FileTree.isDirectory).getD false

def isFile (disk : Disk) (path : Path) : Bool :=
  ((disk.node? path).map (!·.isDirectory)).getD false

def readText (disk : Disk) (path : Path) : Except ReadFailure Text := do
  let names ← disk.locate path
  match disk.root.at? names with
  | some (.file content) =>
    match content.source? with
    | some source => pure source
    | none => throw .notText
  | some (.directory _) => throw .isDirectory
  | none => throw .notFound

def isWritable (disk : Disk) (path : Path) : Bool :=
  match disk.node? path with
  | some (.file content) => content.isWritable
  | _ => false

-- A file that cannot be written to stays as it is.
def overwrite? (disk : Disk) (path : Path) (text : Text) : Option Disk :=
  match disk.locate path with
  | .ok names =>
    if disk.isWritable path then
      some { disk with root := FileTree.put (.file (.text text)) names disk.root }
    else none
  | .error _ => none

end Disk

end CourseLint
