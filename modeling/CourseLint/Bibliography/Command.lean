import CourseLint.Bibliography.Mark

set_option autoImplicit false

namespace CourseLint.Bibliography

def isSignCommand (c : Char) : Bool :=
  ['`', '´', '\'', '^', '~', '=', '.', '"'].contains c

def isWholeCommand (c : Char) : Bool := c == '-' || isSignCommand c

def mark? (command : Text) : Option (Char × Option Mark) :=
  match String.ofList command with
  | "`" => some ('\u0300', some .grave)
  | "´" => some ('\u0301', some .acute)
  | "'" => some ('\u0301', some .acute)
  | "^" => some ('\u0302', some .circumflex)
  | "~" => some ('\u0303', some .tilde)
  | "=" => some ('\u0304', some .macron)
  | "u" => some ('\u0306', some .breve)
  | "." => some ('\u0307', some .dotAbove)
  | "\"" => some ('\u0308', some .diaeresis)
  | "r" => some ('\u030A', some .ring)
  | "H" => some ('\u030B', some .doubleAcute)
  | "v" => some ('\u030C', some .caron)
  | "d" => some ('\u0323', some .dotBelow)
  | "c" => some ('\u0327', some .cedilla)
  | "k" => some ('\u0328', some .ogonek)
  | "b" => some ('\u0332', none)
  | "o" => some ('\u0338', some .slash)
  | _ => none

def symbols : List (String × String) := [
  ("LaTeX", "LaTeX"), ("TeX", "TeX"),
  ("textendash", "–"), ("textemdash", "—"),
  ("textquotesingle", "'"), ("textquotedbl", "\""),
  ("textquoteleft", "‘"), ("textquoteright", "’"),
  ("textquotedblleft", "“"), ("textquotedblright", "”"),
  ("textquotestraightbase", "‚"), ("quotesinglbase", "‚"),
  ("textquotestraightdblbase", "„"), ("quotedblbase", "„"),
  ("guillemotleft", "«"), ("guillemotright", "»"),
  ("guilsinglleft", "‹"), ("guilsinglright", "›"),
  ("textasciicircum", "^"), ("textasciigrave", "`"), ("textasciitilde", "~"),
  ("textasteriskcentered", "⁎"), ("textbackslash", "\\"),
  ("textbar", "|"), ("textbraceleft", "\x7b"), ("textbraceright", "\x7d"), ("textbullet", "•"),
  ("textdagger", "†"), ("textdaggerdbl", "‡"), ("ddag", "‡"), ("textdollar", "$"), ("pounds", "£"),
  ("textellipsis", "…"), ("dots", "…"),
  ("textless", "<"), ("textgreater", ">"),
  ("textexclamdown", "¡"), ("textquestiondown", "¿"),
  ("textordfeminine", "ª"), ("textordmasculine", "º"), ("textperiodcentered", "·"),
  ("textregistered", "®"), ("texttrademark", "™"),
  ("textparagraph", "¶"), ("P", "¶"), ("textsection", "§"), ("S", "§"),
  ("textunderscore", "_"), ("textvisiblespace", "␣"),
  ("aa", "å"), ("AA", "Å"), ("ae", "æ"), ("AE", "Æ"), ("dh", "ð"), ("DH", "Ð"),
  ("dj", "đ"), ("DJ", "Đ"), ("i", "ı"), ("l", "ł"), ("L", "Ł"), ("ng", "ŋ"), ("NG", "Ŋ"),
  ("o", "ø"), ("O", "Ø"), ("oe", "œ"), ("OE", "Œ"), ("ss", "ß"), ("SS", "ẞ"),
  ("th", "þ"), ("TH", "Þ")]

def symbol? (command : Text) : Option Text :=
  (symbols.find? (·.1 == String.ofList command)).map (·.2.toList)

def putMark (combining : Char) (mark : Option Mark) (argument : Text) : Text :=
  match argument.getLast? with
  | none => [combining]
  | some c =>
    let base := if c = 'ı' then 'i' else if c = 'ȷ' then 'j' else c
    argument.dropLast ++ [(mark.map (·.compose base)).getD base]

def expand (command : Text) (argument : Option Text) : Text :=
  if command = ['-'] then []
  else if command = "copyright".toList then '©' :: argument.getD []
  else if (command = ['^'] ∨ command = ['~']) ∧ argument = some [] then command
  else
    match argument, mark? command, symbol? command with
    | some argument, some (combining, mark), _ => putMark combining mark argument
    | _, _, some symbol => symbol
    | none, some (combining, _), none => [combining]
    | some argument, none, none => '\\' :: command ++ '{' :: argument ++ ['}']
    | none, none, none => '\\' :: command ++ [' ']

end CourseLint.Bibliography
