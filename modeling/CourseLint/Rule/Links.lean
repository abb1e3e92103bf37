import CourseLint.Pattern.Catalogue
import CourseLint.Rule.Basic

set_option autoImplicit false

namespace CourseLint.Rule

def internalLink (page : Text) : Text := "\x7b% link " ++ page ++ " %\x7d"

def externalLinkMessage : Text := "Don't link to the external version of the GTN"

def externalSlidesLink : Rule where
  id := "external-slides-link"
  name := "External Slides Link"
  description := "Replaces absolute slide deck URLs with internal links"
  code := ⟨"GTN:003"⟩
  severity := .warning
  kind := .markup
  fixable := true
  findings page := (Pattern.externalSlidesLink.firstOccurrences page.lines).filterMap
    fun occurrence =>
      occurrence.replaceGroup? externalLinkMessage 1 (internalLink (occurrence.group 2))

def externalTutorialLink : Rule where
  id := "external-tutorial-link"
  name := "External Tutorial Link"
  description := "Replaces absolute tutorial URLs with internal links"
  code := ⟨"GTN:003"⟩
  severity := .warning
  kind := .markup
  fixable := true
  findings page := (Pattern.externalTutorialLink.firstOccurrences page.lines).filterMap
    fun occurrence =>
      occurrence.replaceGroup? externalLinkMessage 1 (internalLink (occurrence.group 2 ++ ".md"))

def datasetDoi : Text := "10.5281/zenodo"

def doiCitation : Rule where
  id := "doi-citation"
  name := "DOI Citation"
  description := "Suggests the citation mechanism instead of linking to DOIs"
  code := ⟨"GTN:004"⟩
  severity := .warning
  kind := .markup
  fixable := true
  findings page :=
    (Pattern.doiLink.firstOccurrencesWhere
      (fun occurrence => !datasetDoi.isPrefixOf (occurrence.group 2)) page.lines).map <|
        Occurrence.replace
          ("This looks like a DOI which could be better served by using the built-in Citations " ++
            "mechanism. You can use https://doi2bib.org to convert your DOI into a .bib " ++
            "formatted entry, and add to your tutorial.md")
          "](\x7b% cite ... %\x7d)"

def linkText : Rule where
  id := "link-text"
  name := "Link Text"
  description := "Requires descriptive link text instead of 'here' or 'link'"
  code := ⟨"GTN:005"⟩
  severity := .warning
  kind := .markup
  fixable := true
  findings page := (Pattern.badLinkText.firstOccurrences page.lines).map <|
    Occurrence.replace
      ("Do not use 'here' or 'link' as your link title, it is [bad for accessibility]" ++
        "(https://usability.yale.edu/web-accessibility/articles/links#link-text). Instead try " ++
        "restructuring your sentence to have useful descriptive text in the link.")
      "[Something better here]"

end CourseLint.Rule
