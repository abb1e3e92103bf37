import CourseLint.Pattern.Catalogue
import CourseLint.Rule.Basic

set_option autoImplicit false

namespace CourseLint.Rule

def missingOpenBrace (lines : List Text) : List Finding :=
  (Pattern.missingOpenBrace.firstOccurrences lines).filterMap fun occurrence =>
    occurrence.replaceGroup?
      "It looks like you might be missing the opening \x7b of a jekyll function"
      1 ('{' :: occurrence.group 1)

def missingOpenPercent (lines : List Text) : List Finding :=
  (Pattern.missingOpenPercent.firstOccurrences lines).filterMap fun occurrence =>
    occurrence.replaceGroup?
      "It looks like you might be missing the opening % of a jekyll function"
      1 ('%' :: occurrence.group 1)

def missingCloseBrace (lines : List Text) : List Finding :=
  (Pattern.missingCloseBrace.firstOccurrences lines).filterMap fun occurrence =>
    occurrence.replaceGroup?
      "It looks like you might be missing the closing \x7d of a jekyll function"
      2 ('}' :: occurrence.group 2)

def missingClosePercent (lines : List Text) : List Finding :=
  (Pattern.missingClosePercent.firstOccurrences lines).map fun occurrence =>
    occurrence.replace
      "It looks like you might be missing the closing % of a jekyll function"
      (occurrence.group 1 ++ ['%', '}'])

def callDelimiters : Rule where
  id := "jekyll-braces"
  name := "Jekyll Braces"
  description := "Detects templating calls with a missing \x7b or % delimiter"
  code := ⟨"GTN:006"⟩
  severity := .error
  kind := .markup
  fixable := true
  findings page :=
    missingOpenBrace page.lines ++ missingOpenPercent page.lines ++ missingCloseBrace page.lines ++
      missingClosePercent page.lines

def missingSnippet : Rule where
  id := "missing-snippet"
  name := "Missing Snippet"
  description := "Checks that referenced snippets exist"
  code := ⟨"GTN:007"⟩
  severity := .warning
  kind := .markup
  fixable := false
  findings page :=
    let absent := (Pattern.snippet.firstOccurrences page.lines).filter fun occurrence =>
      !page.fileExists (occurrence.group 1)
    absent.map fun occurrence =>
      occurrence.advise
        ("This snippet (" ++ occurrence.group 1 ++ ") does not seem to exist")

def decodeSlashes : Text → Text
  | '%' :: '2' :: 'F' :: rest => '/' :: decodeSlashes rest
  | '%' :: '2' :: 'f' :: rest => '/' :: decodeSlashes rest
  | c :: rest => c :: decodeSlashes rest
  | [] => []

def toolUrl : Rule where
  id := "tool-url"
  name := "Tool URL"
  description := "Requires tool links to use the tool id instead of a server URL"
  code := ⟨"GTN:008"⟩
  severity := .error
  kind := .markup
  fixable := true
  findings page := (Pattern.toolUrl.firstOccurrences page.lines).map fun occurrence =>
    occurrence.replace
      ("You have used the full tool URL to a specific server, here we only need the tool ID " ++
        "portion.")
      ("\x7b% tool " ++ occurrence.group 1 ++ "(" ++ decodeSlashes (occurrence.group 2) ++
        ") %\x7d")

end CourseLint.Rule
