import CourseLint.Bibliography.Date
import CourseLint.Bibliography.Kind
import CourseLint.Bibliography.Names
import CourseLint.Text.Casing

set_option autoImplicit false

namespace CourseLint.Bibliography

def partsContent (abbreviations : List Field) (verbatim : Bool) :
    Nat → List Part → Option Content
  | 0, _ => none
  | fuel + 1, parts => do
    let contents ← parts.mapM fun part =>
      match part with
      | .written text => content? verbatim text
      | .abbreviation name =>
        match abbreviations.find? (·.name == name) with
        | some definition => partsContent abbreviations verbatim fuel definition.value
        | none => (month? name).map fun month => [⟨true, month⟩]
    pure (contents.foldr Content.append [])

structure Resolved where
  kind : Text
  key : Text
  fields : List (Text × Content)
deriving DecidableEq, Repr

def Resolved.field? (entry : Resolved) (name : Text) : Option Content :=
  (entry.fields.reverse.find? (·.1 == name)).map Prod.snd

def Resolved.text? (entry : Resolved) (name : Text) : Option Text :=
  (entry.field? name).map Content.text

def Resolved.keys (entry : Resolved) : List Text :=
  entry.key :: ((entry.field? "ids").map names).getD []

def resolveEntry (abbreviations : List Field) (entry : Entry) : Option Resolved := do
  let fields ← entry.fields.mapM fun field => do
    let name := Text.asciiLower field.name
    let content ← partsContent abbreviations (isVerbatimField name) (abbreviations.length + 2)
      field.value
    pure (name, content)
  pure ⟨Text.lower entry.kind, entry.key, fields⟩

def keysDiffer (before : List Text) : List Resolved → Bool
  | [] => true
  | entry :: entries => !before.contains entry.key && keysDiffer (before ++ entry.keys) entries

def entryOf? (entries : List Resolved) (key : Text) : Option Resolved :=
  entries.reverse.find? (·.keys.contains key)

def parents (entries : List Resolved) (entry : Resolved) : List Resolved :=
  let listed := (entry.text? "crossref").toList ++ ((entry.field? "xdata").map names).getD []
  listed.filterMap (entryOf? entries)

inductive Dating where
  | absent
  | proper
  | improper
deriving DecidableEq, Repr

def Resolved.dating (entry : Resolved) : Dating :=
  match entry.field? "date", entry.text? "year" with
  | some _, _ => .proper
  | none, none => .absent
  | none, some year =>
    if isDate year (entry.text? "month") (entry.text? "day") then .proper else .improper

def Resolved.continuing (entry parent : Resolved) : Option Resolved :=
  let taken := parent.fields.filter fun field =>
    takesOver entry.kind field.1 && (entry.field? field.1).isNone
  let fields := entry.fields ++ taken
  match needsDate entry.kind, parent.dating with
  | false, _ | true, .absent => some { entry with fields := fields }
  | true, .improper => none
  | true, .proper =>
    let date := ((parent.field? "date") <|> parent.field? "year").getD []
    some { entry with fields := fields ++ [("date".toList, date)] }

def complete (entries : List Resolved) : Nat → Resolved → Option Resolved
  | 0, entry => some entry
  | fuel + 1, entry => do
    let parents ← (parents entries entry).mapM (complete entries fuel)
    parents.foldlM Resolved.continuing entry

def Resolved.answers (entry : Resolved) : ResolvedEntry where
  key := entry.key
  doi := entry.text? "doi"
  url := entry.text? "url"
  title := entry.text? "title"

def resolve (source : Source) : Option (List ResolvedEntry) := do
  let entries ← source.entries.mapM (resolveEntry source.abbreviations)
  if keysDiffer [] entries then
    let completed ← entries.mapM (complete entries entries.length)
    pure (completed.map Resolved.answers)
  else none

def endsWithin {α : Type} (next : α → List α) : Nat → α → Bool
  | 0, _ => false
  | steps + 1, a => (next a).all (endsWithin next steps)

def builtOn (abbreviations : List Field) (definition : Field) : List Field :=
  definition.value.filterMap fun
    | .written _ => none
    | .abbreviation name => abbreviations.find? (·.name == name)

def isAcyclic (source : Source) : Bool :=
  source.abbreviations.all
      (endsWithin (builtOn source.abbreviations) source.abbreviations.length) &&
    match source.entries.mapM (resolveEntry source.abbreviations) with
    | none => true
    | some entries => entries.all (endsWithin (parents entries) entries.length)

-- The reader that runs stands in for the library; no main result rests on it.
instance : Reader where
  read := Source.read
  Ends source := isAcyclic source = true
  resolve := resolve

end CourseLint.Bibliography
