import CourseLint.Bibliography.Entry
import CourseLint.Text.Blank

set_option autoImplicit false

namespace CourseLint.Bibliography

structure SourceError where
  message : Text
deriving DecidableEq, Repr

inductive Part where
  | written (text : Text)
  | abbreviation (name : Text)
deriving DecidableEq, Repr

def Part.text : Part → Text
  | .written text => text
  | .abbreviation name => name

structure Field where
  name : Text
  value : List Part
deriving DecidableEq, Repr

structure Entry where
  start : Nat
  kind : Text
  key : Text
  fields : List Field
deriving DecidableEq, Repr

structure Source where
  entries : List Entry
  abbreviations : List Field
deriving DecidableEq, Repr

structure ResolvedEntry where
  key : Text
  doi : Option Text
  url : Option Text
  title : Option Text
deriving DecidableEq, Repr

/-- The parsing library. On sources whose references do not come to an end `resolve` has no
answer of its own, so nothing is said of it there. -/
class Reader where
  read : Text → Except SourceError Source
  Ends : Source → Prop
  resolve : Source → Option (List ResolvedEntry)

def present (text : Text) : Option Text := if Text.isBlank text then none else some text

def ofResolved (entry : ResolvedEntry) : BibEntry where
  key := entry.key
  doi := entry.doi.bind present
  url := entry.url.bind present
  title := entry.title.bind present

def writtenField? (entry : Entry) (name : Text) : Option Text := do
  let field ← entry.fields.find? (Text.sameIgnoringAsciiCase ·.name name)
  present (field.value.flatMap Part.text)

def ofWritten (entry : Entry) : BibEntry where
  key := entry.key
  doi := writtenField? entry "doi"
  url := writtenField? entry "url"
  title := writtenField? entry "title"

variable [Reader]

def Source.bibEntries (source : Source) : List BibEntry :=
  match Reader.resolve source with
  | some found => found.map ofResolved
  | none => source.entries.map ofWritten

def parse (text : Text) : Except SourceError (List BibEntry) :=
  (Reader.read text).map Source.bibEntries

end CourseLint.Bibliography
