import CourseLint.Pattern.Header
import CourseLint.Rule.Basic

set_option autoImplicit false

namespace CourseLint.Rule

variable [Pattern.Engine]

def headerSpans (key : Text) (lines : List Text) : List Span :=
  match Pattern.entryHeader? key with
  | none => []
  | some header =>
    let headers := lines.zipIdx.filter fun (line, _) => (header.matchAt 0 line).isSome
    headers.map fun (line, lineIndex) => Span.wholeLine lineIndex line

def bibMissingFields : Rule where
  id := "bib-missing-fields"
  name := "Bibliography Missing Fields"
  description := "Requires a title and a DOI or URL on every bibliography entry"
  code := ⟨"GTN:011"⟩
  severity := .error
  kind := .bibliography
  fixable := false
  findings page :=
    (BibEntry.missingOf page.entries).flatMap fun (key, field) =>
      (headerSpans key page.lines).map (⟨·, field.message, none⟩)

end CourseLint.Rule
