import CourseLint.Rule.BibFields
import CourseLint.Rule.BoxTitle
import CourseLint.Rule.Discouraged
import CourseLint.Rule.Links
import CourseLint.Rule.Templating

set_option autoImplicit false

namespace CourseLint

def Rule.answersTo (rule : Rule) (name : Text) : Bool :=
  rule.id == name || Text.sameIgnoringAsciiCase rule.code.value name

structure Registry where
  rules : List Rule

namespace Registry

def empty : Registry := ⟨[]⟩

def put (rule : Rule) : List Rule → List Rule
  | [] => [rule]
  | other :: others => if other.id = rule.id then rule :: others else other :: put rule others

def register (registry : Registry) (rule : Rule) : Registry := ⟨put rule registry.rules⟩

variable [Pattern.Engine]

def builtinRules : List Rule := [
  Rule.noToc, Rule.youtubeEmbed, Rule.externalSlidesLink, Rule.externalTutorialLink,
  Rule.doiCitation, Rule.linkText, Rule.callDelimiters, Rule.missingSnippet, Rule.toolUrl,
  Rule.boxTitle, Rule.newTabLink, Rule.bibMissingFields]

def builtins : Registry := builtinRules.foldl register empty

theorem rules_builtins : builtins.rules = builtinRules := rfl

def get? (registry : Registry) (id : Text) : Option Rule := registry.rules.find? (·.id == id)

def forKind (registry : Registry) (kind : FileKind) : List Rule :=
  registry.rules.filter (·.kind == kind)

def ids (registry : Registry) : List Text := registry.rules.map Rule.id

def size (registry : Registry) : Nat := registry.rules.length

def isEmpty (registry : Registry) : Bool := registry.rules.isEmpty

def without (registry : Registry) (name : Text) : Registry :=
  ⟨registry.rules.filter (!·.answersTo name)⟩

def disable (registry : Registry) : List Text → Registry × List Text
  | [] => (registry, [])
  | name :: names =>
    let left := registry.without name
    let (final, unknown) := left.disable names
    (final, if left.size = registry.size then name :: unknown else unknown)

end Registry

end CourseLint
