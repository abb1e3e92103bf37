import CourseLint.Diagnostic
import CourseLint.Report.Writer

set_option autoImplicit false

namespace CourseLint.Report

variable [Writer]

def styled (color : Bool) (styles : List Style) (text : Text) : Text :=
  if color && !styles.isEmpty then Writer.paint styles text else text

def severityStyles : Severity → List Style
  | .warning => [.orange]
  | .error => [.red, .bold]

def header (diagnostic : Diagnostic) : Text :=
  match diagnostic.code with
  | some code => diagnostic.severity.name ++ '[' :: code.value ++ [']']
  | none => diagnostic.severity.name

def withoutFinalFeeds (text : Text) : Text := (text.reverse.dropWhile (· == '\n')).reverse

def help (suggestion : Suggestion) : Text :=
  let text := withoutFinalFeeds suggestion.text
  if text.isEmpty then "   = help: remove this line\n"
  else "   = help: replace with `" ++ text ++ "`\n"

def humanDiagnostic (color : Bool) (diagnostic : Diagnostic) : Text :=
  styled color (severityStyles diagnostic.severity) (header diagnostic) ++ ": " ++
    diagnostic.message ++ "\n  " ++ styled color [.dim] "-->" ++ " " ++ diagnostic.path ++ ":" ++
    Text.ofNat diagnostic.range.start.line ++ ":" ++ Text.ofNat diagnostic.range.start.column ++
    "\n" ++ ((diagnostic.suggestion.map help).getD []) ++
    ((diagnostic.code.map fun code =>
      "   = see: " ++ styled color [.dim] code.url ++ "\n").getD []) ++ "\n"

def summary (diagnostics : List Diagnostic) : Text :=
  if diagnostics.isEmpty then []
  else
    "Found " ++ Text.ofNat (diagnostics.countP (·.severity == .error)) ++ " error(s) and " ++
      Text.ofNat (diagnostics.countP (·.severity == .warning)) ++ " warning(s)\n"

def human (color : Bool) (diagnostics : List Diagnostic) : Text :=
  diagnostics.flatMap (humanDiagnostic color) ++ summary diagnostics

end CourseLint.Report
