import CourseLint.Report.Human
import CourseLint.Report.Json

set_option autoImplicit false

namespace CourseLint

inductive ReportFormat where
  | jsonLines
  | human
deriving DecidableEq, Repr

namespace ReportFormat

def name : ReportFormat → Text
  | .jsonLines => "rdjsonl"
  | .human => "human"

def ofName? (name : Text) : Option ReportFormat :=
  [ReportFormat.jsonLines, .human].find? (·.name == name)

variable [Report.Writer]

def report (format : ReportFormat) (color : Bool) (diagnostics : List Diagnostic) : Text :=
  match format with
  | .jsonLines => Report.jsonLines diagnostics
  | .human => Report.human color diagnostics

end ReportFormat

end CourseLint
