import CourseLint.Edit
import CourseLint.Error
import CourseLint.Registry

set_option autoImplicit false

namespace CourseLint

def Registry.diagnose (registry : Registry) (kind : FileKind) (page : Page) : List Diagnostic :=
  (registry.forKind kind).flatMap (·.check page)

variable [Bibliography.Reader]

def bibEntriesOf (path : Path) (kind : FileKind) (source : Text) :
    Except Error (List BibEntry) :=
  if kind = .bibliography then
    match Bibliography.parse source with
    | .ok entries => .ok entries
    | .error cause => .error (.bibliographyParse path cause)
  else .ok []

def lint (registry : Registry) (fileExists : Text → Bool) (path : Path) (source : Text) :
    Except Error (List Diagnostic) :=
  let kind := FileKind.ofPath path
  if kind = .unsupported then .ok []
  else do
    let entries ← bibEntriesOf path kind source
    pure (registry.diagnose kind ⟨path, Text.splitLines source, entries, fileExists⟩)

def repair (source : Text) (diagnostics : List Diagnostic) : Option (Repair × Nat) := do
  let (edits, invalid) := Edit.ofDiagnostics source diagnostics
  let repaired ← Edit.applyAll source edits
  pure (repaired, invalid)

end CourseLint
