import CourseLint.Pattern.Catalogue
import CourseLint.Rule.Basic
import CourseLint.Text.Casing

set_option autoImplicit false

namespace CourseLint.Rule

def boxLabel (icon : Text) : Text :=
  (Text.lower icon).map fun c => if c = '_' then '-' else c

def boxTag (icon : Text) : Text := boxLabel icon ++ "-title"

def boxTitleText (icon title : Text) : Text :=
  let trimmed := Text.trim title
  let label := boxLabel icon
  match Text.splitAtByte? trimmed (Text.width label) with
  | some (head, ':' :: tail) =>
    if Text.sameIgnoringAsciiCase head label then Text.trimStart tail else trimmed
  | _ => trimmed

def boxTitleTag (icon title : Text) : Text :=
  "<" ++ boxTag icon ++ ">" ++ boxTitleText icon title ++ "</" ++ boxTag icon ++ ">"

def boxTitle : Rule where
  id := "box-title"
  name := "Box Title"
  description := "Replaces legacy heading box titles with title tags"
  code := ⟨"GTN:009"⟩
  severity := .error
  kind := .markup
  fixable := true
  findings page := (Pattern.boxTitle.firstOccurrences page.lines).filterMap fun occurrence =>
    occurrence.replaceGroup?
      "This is the old box title syntax, please use the new title tag instead."
      1 (boxTitleTag (occurrence.group 2) (occurrence.group 3))

end CourseLint.Rule
