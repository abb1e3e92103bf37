import CourseLint.Diagnostic
import CourseLint.Report.Writer

set_option autoImplicit false

namespace CourseLint.Report

variable [Writer]

def jsonString (text : Text) : Text := '"' :: text.flatMap Writer.escape ++ ['"']

def jsonMember (name value : Text) : Text := jsonString name ++ ':' :: value

def jsonObject (members : List Text) : Text := '{' :: Text.joinWith [','] members ++ ['}']

def jsonPosition (position : Position) : Text :=
  jsonObject [
    jsonMember "line" (Text.ofNat position.line),
    jsonMember "column" (Text.ofNat position.column)]

def jsonRange (range : Range) : Text :=
  jsonObject [
    jsonMember "start" (jsonPosition range.start),
    jsonMember "end" (jsonPosition range.stop)]

def jsonSeverity : Severity → Text
  | .warning => "WARNING"
  | .error => "ERROR"

def jsonLocation (path : Text) (range : Range) : Text :=
  jsonObject [jsonMember "path" (jsonString path), jsonMember "range" (jsonRange range)]

def jsonCode (code : Code) : Text :=
  jsonObject [
    jsonMember "value" (jsonString code.value),
    jsonMember "url" (jsonString code.url)]

def jsonSuggestion (suggestion : Suggestion) : Text :=
  jsonObject [
    jsonMember "text" (jsonString suggestion.text),
    jsonMember "range" (jsonRange suggestion.range)]

def jsonDiagnostic (diagnostic : Diagnostic) : Text :=
  jsonObject <|
    [jsonMember "message" (jsonString diagnostic.message),
      jsonMember "location" (jsonLocation diagnostic.path diagnostic.range),
      jsonMember "severity" (jsonString (jsonSeverity diagnostic.severity))] ++
    (diagnostic.code.map fun code => jsonMember "code" (jsonCode code)).toList ++
    (diagnostic.suggestion.map fun suggestion =>
      jsonMember "suggestions" ('[' :: jsonSuggestion suggestion ++ [']'])).toList

def jsonLines (diagnostics : List Diagnostic) : Text :=
  diagnostics.flatMap fun diagnostic => jsonDiagnostic diagnostic ++ ['\n']

end CourseLint.Report
