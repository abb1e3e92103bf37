import CourseLint.Pattern.Catalogue

set_option autoImplicit false

namespace CourseLint.Pattern

def isMeta (c : Char) : Bool :=
  ['\\', '.', '+', '*', '?', '(', ')', '|', '[', ']', '{', '}', '^', '$', '#', '&', '-',
    '~'].contains c

def escape (text : Text) : Text := text.flatMap fun c => if isMeta c then ['\\', c] else [c]

def chain : List Pattern → Pattern := List.foldr .seq .nothing

def exactly (text : Text) : List Pattern := text.map fun c => .char (· == c)

-- The pieces of a regular expression, in as much of the notation as headers are written in.
def pieces? : Text → Option (List Pattern)
  | [] => some []
  | '^' :: left => (pieces? left).map (lineStart :: ·)
  | '.' :: '*' :: left => (pieces? left).map (rest :: ·)
  | '\\' :: 's' :: '*' :: left => (pieces? left).map (.longest Text.isBlankChar :: ·)
  | '\\' :: c :: left =>
    if isMeta c then (pieces? left).map (.char (· == c) :: ·) else none
  | c :: left => if isMeta c then none else (pieces? left).map (.char (· == c) :: ·)

/-- The engine for regular expressions. It refuses an expression that takes too much space. -/
class Engine where
  builds : Text → Bool

instance : Engine := ⟨fun _ => true⟩

def ofExpression? [Engine] (expression : Text) : Option Pattern :=
  if Engine.builds expression then (pieces? expression).map chain else none

def headerExpression (key : Text) : Text := "^\\s*@.*\\\x7b".toList ++ escape key ++ [',']

def entryHeader? [Engine] (key : Text) : Option Pattern := ofExpression? (headerExpression key)

def entryHeader (key : Text) : Pattern :=
  chain ([lineStart, .longest Text.isBlankChar, .char (· == '@'), rest, .char (· == '{')] ++
    exactly (key ++ [',']))

end CourseLint.Pattern
