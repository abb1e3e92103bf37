import CourseLint.Text.Alphanumeric
import CourseLint.Text.Blank

set_option autoImplicit false

namespace CourseLint.Bibliography

def months : List Text :=
  ["January", "February", "March", "April", "May", "June", "July", "August", "September",
    "October", "November", "December"]

def month? (letters : Text) : Option Text :=
  months.find? fun month => Text.sameIgnoringAsciiCase letters (month.take 3)

def eras : List Text := ["AD", "BCE", "BC", "CE"]

def isYear (text : Text) : Bool :=
  let text := Text.trimStart text
  let isSigned := ['+', '-'].any (some · == text.head?)
  let unsigned := if isSigned then text.drop 1 else text
  let digits := unsigned.takeWhile Char.isDigit
  let left := Text.trimStart (unsigned.dropWhile Char.isDigit)
  !digits.isEmpty && digits.length ≤ 4 &&
    match eras.find? (·.isPrefixOf left) with
    | none => true
    | some era =>
      !isSigned && Text.decimal digits != 0 &&
        !(left.drop era.length).head?.any Text.isAlphanumeric

def isDayNumber (digits : Text) : Bool :=
  !digits.isEmpty && digits.all Char.isDigit &&
    decide (1 ≤ Text.decimal digits ∧ Text.decimal digits ≤ 31)

def isDay (text : Text) : Bool :=
  match Text.trim text with
  | '+' :: digits => isDayNumber digits
  | digits => isDayNumber digits

def isMonth (text : Text) : Bool :=
  let separates (c : Char) : Bool := Text.isBlankChar c || c == '-'
  let left := (Text.trimStart text).dropWhile Char.isAlpha
  !left.head?.any separates ||
    isDayNumber ((left.dropWhile separates).takeWhile Char.isDigit)

def isDate (year : Text) (month day : Option Text) : Bool :=
  isYear year &&
    match month, day with
    | none, _ => true
    | some _, some day => isDay day
    | some month, none => isMonth month

end CourseLint.Bibliography
