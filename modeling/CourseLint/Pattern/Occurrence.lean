import CourseLint.Pattern.Basic
import CourseLint.Span

set_option autoImplicit false

namespace CourseLint

structure Match where
  start : Nat
  stop : Nat
  captures : List Capture
deriving DecidableEq, Repr

namespace Pattern

def matchAt (pattern : Pattern) (offset : Nat) (rest : Text) : Option Match :=
  pattern.run (fun after => some ⟨offset, after.offset, after.captures⟩) ⟨offset, rest, []⟩

def matchesFrom (pattern : Pattern) (resume offset : Nat) : Text → List Match
  | [] => if offset < resume then [] else (pattern.matchAt offset []).toList
  | c :: rest =>
    let next := offset + c.utf8Size
    if offset < resume then matchesFrom pattern resume next rest
    else match pattern.matchAt offset (c :: rest) with
      | none => matchesFrom pattern resume next rest
      | some found => found :: matchesFrom pattern found.stop next rest

def matchesOf (pattern : Pattern) (line : Text) : List Match := matchesFrom pattern 0 0 line

end Pattern

structure Occurrence where
  lineIndex : Nat
  line : Text
  found : Match
deriving DecidableEq, Repr

namespace Occurrence

def span (occurrence : Occurrence) : Span :=
  ⟨occurrence.lineIndex, occurrence.line, occurrence.found.start, occurrence.found.stop⟩

def groupSpan? (occurrence : Occurrence) (index : Nat) : Option Span := do
  let capture ← occurrence.found.captures.find? (·.index == index)
  pure ⟨occurrence.lineIndex, occurrence.line, capture.start, capture.stop⟩

def group (occurrence : Occurrence) (index : Nat) : Text :=
  ((occurrence.groupSpan? index).map Span.text).getD []

end Occurrence

namespace Pattern

def occurrences (pattern : Pattern) (lineIndex : Nat) (line : Text) : List Occurrence :=
  (pattern.matchesOf line).map (⟨lineIndex, line, ·⟩)

def firstOccurrencesWhere (pattern : Pattern) (accepts : Occurrence → Bool) (lines : List Text) :
    List Occurrence :=
  lines.zipIdx.filterMap fun (line, lineIndex) =>
    (pattern.occurrences lineIndex line).find? accepts

def firstOccurrences (pattern : Pattern) (lines : List Text) : List Occurrence :=
  pattern.firstOccurrencesWhere (fun _ => true) lines

end Pattern

end CourseLint
