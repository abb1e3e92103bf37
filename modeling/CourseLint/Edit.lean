import CourseLint.Diagnostic
import CourseLint.Text.Lines

set_option autoImplicit false

namespace CourseLint

structure Edit where
  start : Nat
  stop : Nat
  text : Text
deriving DecidableEq, Repr

structure Repair where
  text : Text
  applied : Nat
  skipped : Nat
deriving DecidableEq, Repr

namespace Edit

def offsetOf? (source : Text) (position : Position) : Option Nat :=
  match position.line, position.column with
  | lineIndex + 1, column + 1 => do
    let starts := Text.lineStarts source
    let offset ←
      match starts[lineIndex]? with
      | some start => some (start + column)
      | none =>
        if lineIndex = starts.length ∧ column = 0 then some (Text.width source) else none
    let _ ← Text.splitAtByte? source offset
    pure offset
  | _, _ => none

def adaptEnding (before text : Text) : Text :=
  if text.getLast? = some '\n' then
    match before.reverse with
    | '\n' :: '\r' :: _ => text.dropLast ++ ['\r', '\n']
    | '\n' :: _ => text
    | _ => text.dropLast
  else text

def ofSuggestion? (source : Text) (suggestion : Suggestion) : Option Edit := do
  let start ← offsetOf? source suggestion.range.start
  let stop ← offsetOf? source suggestion.range.stop
  let (before, _) ← Text.splitAtByte? source stop
  if start ≤ stop then pure ⟨start, stop, adaptEnding before suggestion.text⟩ else none

def ofDiagnostics (source : Text) (diagnostics : List Diagnostic) : List Edit × Nat :=
  let edits := (diagnostics.filterMap Diagnostic.suggestion).map (ofSuggestion? source)
  (edits.filterMap id, edits.countP Option.isNone)

def insertByStart (edit : Edit) : List Edit → List Edit
  | [] => [edit]
  | other :: others =>
    if other.start ≤ edit.start then edit :: other :: others
    else other :: insertByStart edit others

def lastFirst (edits : List Edit) : List Edit := edits.foldr insertByStart []

structure Progress where
  untouched : Text
  finished : Text
  applied : Nat
  skipped : Nat

def Progress.step (progress : Progress) (edit : Edit) : Option Progress :=
  if Text.width progress.untouched < edit.stop then
    some { progress with skipped := progress.skipped + 1 }
  else do
    let (upToStop, between) ← Text.splitAtByte? progress.untouched edit.stop
    let (before, _) ← Text.splitAtByte? upToStop edit.start
    pure ⟨before, edit.text ++ between ++ progress.finished, progress.applied + 1, progress.skipped⟩

def applyAll (source : Text) (edits : List Edit) : Option Repair := do
  let progress ← (lastFirst edits).foldlM Progress.step ⟨source, [], 0, 0⟩
  pure ⟨progress.untouched ++ progress.finished, progress.applied, progress.skipped⟩

end Edit

end CourseLint
