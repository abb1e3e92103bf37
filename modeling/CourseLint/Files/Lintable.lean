import CourseLint.Files.Disk
import CourseLint.Rule.Basic

set_option autoImplicit false

namespace CourseLint

/-- The names of files as the system has them; not every name is a text. -/
class FileName (ν : Type) where
  bytes : ν → List UInt8
  text? : ν → Option Text
  kind : ν → FileKind

instance : FileName Text where
  bytes := Text.utf8
  text? name := some name
  kind := FileKind.ofPath

instance : FileName (List UInt8) where
  bytes name := name
  text? := decodeUtf8?
  kind name := FileKind.ofExtension? ((Path.behindLast? 0x2E name).bind decodeUtf8?)

inductive NameTree (ν : Type) where
  | file
  | directory (entries : List (ν × NameTree ν))

/-- What the system answers about the place that names lead to: whether it is a directory, whether
it opens as one, and whether the entry comes without an error. -/
structure Access (ν : Type) where
  isDirectory : List ν → Bool
  opens : List ν → Bool
  yields : List ν → Bool

namespace NameTree

variable {ν α : Type} [FileName ν]

def isPassedOver (name : ν) : Bool :=
  match FileName.text? name with
  | some text => text.head? == some '.' || text == "_site".toList
  | none => false

def insertByName (item : ν × α) : List (ν × α) → List (ν × α)
  | [] => [item]
  | other :: others =>
    if FileName.bytes other.1 < FileName.bytes item.1 then other :: insertByName item others
    else item :: other :: others

def sortByName (items : List (ν × α)) : List (ν × α) := items.foldr insertByName []

def lintableFile (here : List ν) : List (List ν) :=
  match here.getLast? with
  | some name => if FileName.kind name = .unsupported then [] else [here]
  | none => []

mutual

def collect (access : Access ν) (here : List ν) : NameTree ν → List (List ν)
  | .file => if access.isDirectory here then [] else lintableFile here
  | .directory entries =>
    if access.isDirectory here then
      if access.opens here then
        (sortByName (collectIn access here entries)).flatMap Prod.snd
      else []
    else lintableFile here

def collectIn (access : Access ν) (here : List ν) :
    List (ν × NameTree ν) → List (ν × List (List ν))
  | [] => []
  | (name, tree) :: entries =>
    let below := here ++ [name]
    (name, if isPassedOver name || !access.yields below then [] else collect access below tree) ::
      collectIn access here entries

end

def collectDirectory (access : Access ν) (entries : List (ν × NameTree ν)) : List (List ν) :=
  if access.opens [] then (sortByName (collectIn access [] entries)).flatMap Prod.snd else []

end NameTree

mutual

def FileTree.names : FileTree → NameTree Text
  | .file _ => .file
  | .directory entries => .directory (FileTree.namesIn entries)

def FileTree.namesIn : List (Text × FileTree) → List (Text × NameTree Text)
  | [] => []
  | (name, tree) :: entries => (name, tree.names) :: FileTree.namesIn entries

end

namespace Disk

def accessBelow (disk : Disk) (path : Path) : Access Text where
  isDirectory names := disk.isDirectory (names.foldl Path.join path)
  opens names := disk.isDirectory (names.foldl Path.join path)
  yields _ := true

def filesAt (disk : Disk) (path : Path) : List Path :=
  match disk.node? path with
  | some (.directory entries) =>
    (NameTree.collectDirectory (disk.accessBelow path) (FileTree.namesIn entries)).map
      (·.foldl Path.join path)
  | _ => [path]

end Disk

end CourseLint
