import CourseLint.Code
import CourseLint.Span

set_option autoImplicit false

namespace CourseLint

inductive Severity where
  | warning
  | error
deriving DecidableEq, Repr

def Severity.name : Severity → Text
  | .warning => "warning"
  | .error => "error"

structure Suggestion where
  text : Text
  range : Range
deriving DecidableEq, Repr

structure Diagnostic where
  path : Text
  range : Range
  severity : Severity
  code : Option Code
  message : Text
  suggestion : Option Suggestion
deriving DecidableEq, Repr

namespace Diagnostic

def ofSpan (path : Text) (span : Span) (severity : Severity) (message : Text) : Diagnostic where
  path := path
  range := span.range
  severity := severity
  code := none
  message := message
  suggestion := none

def warning (path : Text) (span : Span) (message : Text) : Diagnostic :=
  ofSpan path span .warning message

def error (path : Text) (span : Span) (message : Text) : Diagnostic :=
  ofSpan path span .error message

def withCode (diagnostic : Diagnostic) (code : Code) : Diagnostic :=
  { diagnostic with code := some code }

def withReplacement (diagnostic : Diagnostic) (text : Text) : Diagnostic :=
  let replacing : Text :=
    if diagnostic.range.spansLineBreak && !text.isEmpty then text ++ ['\n'] else text
  { diagnostic with suggestion := some ⟨replacing, diagnostic.range⟩ }

def deleteLine (path : Text) (lineIndex : Nat) (line : Text) (message : Text) : Diagnostic :=
  (warning path (Span.wholeLine lineIndex line) message).withReplacement []

end Diagnostic

end CourseLint
