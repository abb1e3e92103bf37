import CourseLint.Pattern.Basic
import CourseLint.Text.Blank

set_option autoImplicit false

namespace CourseLint.Pattern

def isNot (c : Char) : Char → Bool := (· != c)

def foldsTo (letter c : Char) : Bool :=
  c.toLower == letter.toLower ||
    (letter.toLower == 'k' && c == '\u212A') || (letter.toLower == 's' && c == '\u017F')

def anyCase : Text → Pattern
  | [] => .nothing
  | [letter] => .char (foldsTo letter)
  | letter :: rest => .char (foldsTo letter) ++ anyCase rest

def blanks : Pattern := whole Text.isBlankChar

def blanksOne : Pattern := wholeOne Text.isBlankChar

def rest : Pattern := .longest (isNot '\n')

def callOpen : Pattern := literal ['{', '%']

def callClose : Pattern := literal ['%', '}']

def noToc : Pattern :=
  literal "\x7b:" ++ blanks ++ literal ".no_toc" ++ blanks ++ literal "\x7d"

def youtubeFrame : Pattern := literal "<iframe" ++ rest ++ literal "youtube"

def quoteMark : Pattern := .char fun c => c == '"' || c == '\''

def newTabTarget : Pattern :=
  literal "target" ++ blanks ++ literal "=" ++ blanks ++ optional quoteMark ++ literal "_blank" ++
    optional quoteMark

def trainingSite : Pattern :=
  literal "http" ++ optional (literal "s") ++ literal "://" ++
    .either (literal "training.galaxyproject.org") (literal "galaxyproject.github.io") ++
    literal "/training-material/"

def inPagePath (c : Char) : Bool := c != '(' && c != ')' && !Text.isBlankChar c

def externalTutorialLink : Pattern :=
  literal "(" ++
    .group 1 (trainingSite ++ .group 2 (.longest inPagePath ++ literal "tutorial") ++
      literal ".html") ++
    literal ")"

def externalSlidesLink : Pattern :=
  literal "(" ++
    .group 1 (trainingSite ++ .group 2 (.longest inPagePath ++ literal "slides.html")) ++
    literal ")"

def inDoi (c : Char) : Bool := c != ')' && !Text.isBlankChar c

def doiLink : Pattern :=
  literal "](" ++
    .group 1 (literal "http" ++ optional (literal "s") ++ literal "://" ++
      optional (literal "dx.") ++ literal "doi.org/" ++
      .group 2 (literal "10." ++ wholeOne inDoi)) ++
    literal ")"

def badLinkText : Pattern :=
  literal "[" ++ blanks ++ .either (anyCase "here") (anyCase "link") ++ blanks ++ literal "]"

def missingOpenBrace : Pattern :=
  .either (.char (isNot '{')) .lineStart ++
    .group 1 (literal "%" ++ whole (isNot '%') ++ callClose)

def missingOpenPercent : Pattern :=
  literal ['{'] ++
    .group 1 (.char (isNot '%') ++ .most 1 (isNot '%') ++ literal [' ', '%', '}'])

def missingCloseBrace : Pattern :=
  .group 1 (callOpen ++ whole (isNot '%') ++ literal "%") ++
    .group 2 (.either (.char (isNot '}')) .lineEnd)

def missingClosePercent : Pattern :=
  .group 1 (callOpen ++ .most 1 (isNot '}') ++ .char (isNot '%')) ++ literal ['}']

def inSnippetPath (c : Char) : Bool := !Text.isBlankChar c && c != '%'

def snippet : Pattern :=
  callOpen ++ blanks ++ anyCase "snippet" ++ blanksOne ++ .group 1 (wholeOne inSnippetPath)

def inToolId (c : Char) : Bool := c != ')' && c != '&' && !Text.isBlankChar c

def toolUrl : Pattern :=
  callOpen ++ blanks ++ anyCase "tool" ++ blanksOne ++
    .group 1 (literal "[" ++ whole (isNot ']') ++ literal "]") ++
    literal "(" ++ anyCase "http" ++ optional (anyCase "s") ++ literal "://" ++
    .shortest (isNot ')') ++ anyCase "tool_id=" ++ .group 2 (whole inToolId) ++
    whole (isNot ')') ++ literal ")" ++ blanks ++ callClose

def inQuoteMarkers (c : Char) : Bool := c == '>' || Text.isBlankChar c

def inIcon (c : Char) : Bool := c != '%' && !Text.isBlankChar c

def boxTitle : Pattern :=
  .lineStart ++ .longest inQuoteMarkers ++ literal ">" ++ blanks ++
    .group 1 (literal "#" ++ atMost (literal "#") 5 ++ blanks ++ callOpen ++ blanks ++
      literal "icon" ++ blanksOne ++ .group 2 (wholeOne inIcon) ++ blanks ++ callClose ++
      blanks ++ .group 3 rest)

end CourseLint.Pattern
