import CourseLint.Error
import CourseLint.Report.Format
import CourseLint.Text.Blank
import CourseLint.Yaml.Node

set_option autoImplicit false

namespace CourseLint

structure Config where
  disable : List Text
  snippetRoot : Option Path
  format : Option ReportFormat
deriving DecidableEq, Repr

namespace Config

def default : Config := ⟨[], none, none⟩

inductive Fault where
  | notAList
  | notAText
  | notAFormat
  | notAMapping
  | unknownKey (name : Text)
  | repeatedKey (name : Text)
deriving DecidableEq, Repr

def Fault.message : Fault → Text
  | .notAList => "a list was expected"
  | .notAText => "a text was expected"
  | .notAFormat => "a report format was expected"
  | .notAMapping => "a mapping was expected"
  | .unknownKey name => "unknown key " ++ name
  | .repeatedKey name => "repeated key " ++ name

open Yaml (Node Document)

def nullTag : Text := "tag:yaml.org,2002:null"

def isNullWord (text : Text) : Bool :=
  ["null".toList, "Null".toList, "NULL".toList, "~".toList].contains text

def readOptional {α : Type} (document : Document) (read : Node → Except Fault α) (node : Node) :
    Except Fault (Option α) :=
  match document.meant node with
  | .scalar (some tag) true text =>
    if tag = nullTag then if isNullWord text then .ok none else .error .notAText
    else (read node).map some
  | .scalar none true text =>
    if text.isEmpty || isNullWord text then .ok none else (read node).map some
  | _ => (read node).map some

def readText (document : Document) (node : Node) : Except Fault Text :=
  match document.meant node with
  | .scalar _ _ text => .ok text
  | _ => .error .notAText

def isLeftOut : Node → Bool
  | .scalar _ isPlain text => isPlain && text.isEmpty
  | _ => false

def readTexts (document : Document) (node : Node) : Except Fault (List Text) :=
  match document.meant node with
  | .sequence entries => entries.mapM (readText document)
  | node => if isLeftOut node then .ok [] else .error .notAList

def formatNamed (name : Text) : Except Fault ReportFormat :=
  match ReportFormat.ofName? name with
  | some format => .ok format
  | none => .error .notAFormat

def readFormat (document : Document) (node : Node) : Except Fault ReportFormat :=
  match document.meant node with
  | .scalar (some ('!' :: name)) isPlain text =>
    if isPlain && (text.isEmpty || isNullWord text) && !name.isEmpty then formatNamed name
    else .error .notAFormat
  | .scalar _ _ name => formatNamed name
  | _ => .error .notAFormat

structure Given where
  disable : Option (List Text)
  snippetRoot : Option (Option Path)
  format : Option (Option ReportFormat)

def Given.put (document : Document) (given : Given) (key : Text) (value : Node) :
    Except Fault Given :=
  if key = "disable".toList then
    if given.disable.isSome then .error (.repeatedKey key)
    else (readTexts document value).map fun names => { given with disable := some names }
  else if key = "snippet_root".toList then
    if given.snippetRoot.isSome then .error (.repeatedKey key)
    else
      (readOptional document (readText document) value).map fun root =>
        { given with snippetRoot := some root }
  else if key = "format".toList then
    if given.format.isSome then .error (.repeatedKey key)
    else
      (readOptional document (readFormat document) value).map fun format =>
        { given with format := some format }
  else .error (.unknownKey key)

def Given.config (given : Given) : Config :=
  ⟨given.disable.getD [], given.snippetRoot.getD none, given.format.getD none⟩

def ofNode (document : Document) (node : Node) : Except Fault Config :=
  match document.meant node with
  | .mapping pairs => do
    let given ← pairs.foldlM
      (fun given pair => do Given.put document given (← readText document pair.1) pair.2)
      ⟨none, none, none⟩
    pure given.config
  | node => if isLeftOut node then .ok default else .error .notAMapping

def parse (path : Path) (source : Text) : Except Error Config :=
  if Text.isBlank source then .ok default
  else
    match Yaml.documentOf source with
    | .error fault => .error (.configParse path fault.message)
    | .ok none => .ok default
    | .ok (some document) =>
      match readOptional document (ofNode document) document.root with
      | .error fault => .error (.configParse path fault.message)
      | .ok config => .ok (config.getD default)

end Config

end CourseLint
