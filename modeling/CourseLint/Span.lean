import CourseLint.Text.Basic

set_option autoImplicit false

namespace CourseLint

structure Position where
  line : Nat
  column : Nat
deriving DecidableEq, Repr

structure Range where
  start : Position
  stop : Position
deriving DecidableEq, Repr

def Range.spansLineBreak (range : Range) : Bool := decide (range.start.line < range.stop.line)

structure Span where
  lineIndex : Nat
  line : Text
  start : Nat
  stop : Nat
deriving DecidableEq, Repr

namespace Span

def wholeLine (lineIndex : Nat) (line : Text) : Span := ⟨lineIndex, line, 0, Text.width line⟩

def text (span : Span) : Text := (Text.slice? span.line span.start span.stop).getD []

def range (span : Span) : Range where
  start := ⟨span.lineIndex + 1, span.start + 1⟩
  stop :=
    if span.stop = Text.width span.line then ⟨span.lineIndex + 2, 1⟩
    else ⟨span.lineIndex + 1, span.stop + 1⟩

end Span

end CourseLint
