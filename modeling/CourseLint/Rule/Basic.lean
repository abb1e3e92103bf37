import CourseLint.Bibliography.Entry
import CourseLint.Diagnostic
import CourseLint.Files.Path
import CourseLint.Pattern.Occurrence

set_option autoImplicit false

namespace CourseLint

inductive FileKind where
  | markup
  | bibliography
  | unsupported
deriving DecidableEq, Repr

def FileKind.ofExtension? : Option Text → FileKind
  | none => .unsupported
  | some extension =>
    if extension = "md".toList ∨ extension = "markdown".toList then .markup
    else if extension = "bib".toList then .bibliography
    else .unsupported

def FileKind.ofPath (path : Path) : FileKind := .ofExtension? (Path.extension? path)

structure Page where
  path : Text
  lines : List Text
  entries : List BibEntry
  fileExists : Text → Bool

structure Finding where
  span : Span
  message : Text
  replacement : Option Text
deriving DecidableEq, Repr

structure Rule where
  id : Text
  name : Text
  description : Text
  code : Code
  severity : Severity
  kind : FileKind
  fixable : Bool
  findings : Page → List Finding

namespace Rule

def diagnose (rule : Rule) (path : Text) (finding : Finding) : Diagnostic :=
  let diagnostic :=
    (Diagnostic.ofSpan path finding.span rule.severity finding.message).withCode rule.code
  match finding.replacement with
  | none => diagnostic
  | some text => diagnostic.withReplacement text

def check (rule : Rule) (page : Page) : List Diagnostic :=
  (rule.findings page).map (rule.diagnose page.path)

end Rule

namespace Occurrence

def advise (message : Text) (occurrence : Occurrence) : Finding :=
  ⟨occurrence.span, message, none⟩

def replace (message : Text) (text : Text) (occurrence : Occurrence) : Finding :=
  ⟨occurrence.span, message, some text⟩

def replaceGroup? (message : Text) (index : Nat) (text : Text) (occurrence : Occurrence) :
    Option Finding :=
  (occurrence.groupSpan? index).map (⟨·, message, some text⟩)

end Occurrence

def Rule.ofLiteral (id name description code : Text) (severity : Severity) (kind : FileKind)
    (text message : Text) (replacement : Option Text) : Rule where
  id := id
  name := name
  description := description
  code := ⟨code⟩
  severity := severity
  kind := kind
  fixable := replacement.isSome
  findings page :=
    (Pattern.literal text).firstOccurrences page.lines |>.map (⟨·.span, message, replacement⟩)

end CourseLint
