import CourseLint.Files.Path

set_option autoImplicit false

namespace CourseLint

inductive Content where
  | text (text : Text)
  | readOnly (text : Text)
  | binary (bytes : List UInt8)
deriving DecidableEq, Repr

def Content.source? : Content → Option Text
  | .text source | .readOnly source => some source
  | .binary _ => none

def Content.isWritable : Content → Bool
  | .readOnly _ => false
  | .text _ | .binary _ => true

def decodeUtf8? (bytes : List UInt8) : Option Text :=
  (String.fromUTF8? (ByteArray.mk bytes.toArray)).map String.toList

def Content.ofBytes (bytes : List UInt8) : Content :=
  match decodeUtf8? bytes with
  | some source => .text source
  | none => .binary bytes

inductive FileTree where
  | file (content : Content)
  | directory (entries : List (Text × FileTree))

def Text.precedes : Text → Text → Bool
  | [], [] => false
  | [], _ :: _ => true
  | _ :: _, [] => false
  | c :: rest, d :: others => c.toNat < d.toNat || (c == d && precedes rest others)

namespace FileTree

def empty : FileTree := .directory []

def isDirectory : FileTree → Bool
  | .directory _ => true
  | .file _ => false

def entry? (tree : FileTree) (name : Text) : Option FileTree :=
  match tree with
  | .file _ => none
  | .directory entries => (entries.find? (·.1 == name)).map Prod.snd

def at? (tree : FileTree) : List Text → Option FileTree
  | [] => some tree
  | name :: names => (tree.entry? name).bind (·.at? names)

def putEntry (name : Text) (tree : FileTree) : List (Text × FileTree) → List (Text × FileTree)
  | [] => [(name, tree)]
  | other :: others =>
    if other.1 = name then (name, tree) :: others
    else if Text.precedes name other.1 then (name, tree) :: other :: others
    else other :: putEntry name tree others

def put (new : FileTree) : List Text → FileTree → FileTree
  | [], _ => new
  | name :: names, tree =>
    let entries := match tree with
      | .directory entries => entries
      | .file _ => []
    .directory (putEntry name (put new names ((tree.entry? name).getD empty)) entries)

def remove : List Text → FileTree → FileTree
  | [], tree => tree
  | [name], .directory entries => .directory (entries.filter (·.1 != name))
  | name :: names, .directory entries =>
    .directory (entries.map fun entry =>
      if entry.1 = name then (entry.1, remove names entry.2) else entry)
  | _, .file content => .file content

end FileTree

end CourseLint
