import CourseLint.Pattern.Catalogue
import CourseLint.Rule.Basic

set_option autoImplicit false

namespace CourseLint.Rule

def noToc : Rule where
  id := "no-toc"
  name := "No TOC Marker"
  description := "Discourages hiding headings from the table of contents"
  code := ⟨"GTN:001"⟩
  severity := .warning
  kind := .markup
  fixable := false
  findings page := (Pattern.noToc.firstOccurrences page.lines).map <| Occurrence.advise <|
    "Setting \x7b: .no_toc\x7d is discouraged, these headings provide useful places for " ++
      "readers to jump to."

def youtubeEmbed : Rule where
  id := "youtube-embed"
  name := "YouTube Embed"
  description := "Discourages embedding YouTube iframes in tutorials"
  code := ⟨"GTN:002"⟩
  severity := .warning
  kind := .markup
  fixable := false
  findings page := (Pattern.youtubeFrame.firstOccurrences page.lines).map <| Occurrence.advise <|
    "Instead of embedding IFrames to YouTube contents, consider adding this video to the GTN " ++
      "Video Library where it will be more visible for others. " ++
      "https://github.com/gallantries/video-library/issues/"

def newTabLink : Rule where
  id := "new-tab-link"
  name := "New Tab Link"
  description := "Discourages links that open in a new tab"
  code := ⟨"GTN:010"⟩
  severity := .warning
  kind := .markup
  fixable := false
  findings page := (Pattern.newTabTarget.firstOccurrences page.lines).map <| Occurrence.advise <|
    "Please do not open links in a new tab with target=\"_blank\". It is " ++
      "[bad for accessibility](https://www.w3.org/WAI/WCAG21/Techniques/general/G201); " ++
      "readers can choose to open a new tab themselves."

end CourseLint.Rule
