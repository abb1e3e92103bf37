import CourseLint.Text.Basic

set_option autoImplicit false

namespace CourseLint.Yaml

inductive Fault where
  | character
  | anchor
  | tag
  | directive
  | scalar
  | missingColon
  | notAllowedHere
  | notANode
  | unfinishedCollection
  | documents
  | unknownAlias
deriving DecidableEq, Repr

def Fault.message : Fault → Text
  | .character => "a character that is not allowed here"
  | .anchor => "an anchor or alias without a proper name"
  | .tag => "a malformed or undefined tag"
  | .directive => "a malformed directive"
  | .scalar => "a malformed scalar"
  | .missingColon => "a key without a colon behind it"
  | .notAllowedHere => "an entry where none may begin"
  | .notANode => "a value was expected"
  | .unfinishedCollection => "a collection that is not continued or closed"
  | .documents => "text behind the end of a document"
  | .unknownAlias => "an alias for an unknown anchor"

structure Place where
  index : Nat
  line : Nat
  column : Nat
  rest : Text

def isBreak (c : Char) : Bool :=
  c == '\n' || c == '\r' || c == '\u0085' || c == '\u2028' || c == '\u2029'

def isBlank (c : Char) : Bool := c == ' ' || c == '\t'

def startsWith (accepts : Char → Bool) (text : Text) : Bool := (text.head?.map accepts).getD false

def atWordEnd (text : Text) : Bool := (text.head?.map fun c => isBlank c || isBreak c).getD true

def atLineEnd (text : Text) : Bool := (text.head?.map isBreak).getD true

def isNameChar (c : Char) : Bool := c.isAlphanum || c == '_' || c == '-'

def hexValue (digits : Text) : Option Nat :=
  digits.foldlM (fun n c =>
    if c.isDigit then some (16 * n + (c.toNat - '0'.toNat))
    else if 'a' ≤ c ∧ c ≤ 'f' then some (16 * n + (c.toNat - 'a'.toNat + 10))
    else if 'A' ≤ c ∧ c ≤ 'F' then some (16 * n + (c.toNat - 'A'.toNat + 10))
    else none) 0

namespace Place

def ofText (text : Text) : Place := ⟨0, 0, 0, text⟩

def skip (place : Place) (count : Nat) : Place :=
  ⟨place.index + count, place.line, place.column + count, place.rest.drop count⟩

def takeBreak (place : Place) : Text × Place :=
  match place.rest with
  | '\r' :: '\n' :: rest => (['\n'], ⟨place.index + 2, place.line + 1, 0, rest⟩)
  | c :: rest =>
    let lineBreak := if c = '\u2028' ∨ c = '\u2029' then [c] else ['\n']
    (lineBreak, ⟨place.index + 1, place.line + 1, 0, rest⟩)
  | [] => ([], place)

def skipBreak (place : Place) : Place := place.takeBreak.2

def takeWhile (accepts : Char → Bool) (place : Place) : Text × Place :=
  let taken := place.rest.takeWhile accepts
  (taken, place.skip taken.length)

def skipWhile (accepts : Char → Bool) (place : Place) : Place := (place.takeWhile accepts).2

def skipToLineEnd (place : Place) : Place := place.skipWhile (!isBreak ·)

def skipBlanksAndComment (place : Place) : Place :=
  let place := place.skipWhile isBlank
  if startsWith (· == '#') place.rest then place.skipToLineEnd else place

def isAtMark (mark : Text) (place : Place) : Bool :=
  place.column == 0 && mark.isPrefixOf place.rest && atWordEnd (place.rest.drop mark.length)

def isAtDocumentStart (place : Place) : Bool := place.isAtMark "---"

def isAtDocumentEnd (place : Place) : Bool := place.isAtMark "..."

def isAtByteOrderMark (place : Place) : Bool :=
  place.column == 0 && startsWith (· == '\ufeff') place.rest

def isAtDocumentMark (place : Place) : Bool := place.isAtDocumentStart || place.isAtDocumentEnd

end Place

end CourseLint.Yaml
