import CourseLint.Text.Basic

set_option autoImplicit false

namespace CourseLint

structure BibEntry where
  key : Text
  doi : Option Text
  url : Option Text
  title : Option Text
deriving DecidableEq, Repr

inductive MissingField where
  | doiAndUrl
  | title
deriving DecidableEq, Repr

def MissingField.message : MissingField → Text
  | .doiAndUrl => "Missing both a DOI and a URL. Please add one of the two."
  | .title => "This entry is missing a title attribute. Please add it."

namespace BibEntry

def missing (entry : BibEntry) : List MissingField :=
  (if entry.doi.isNone && entry.url.isNone then [.doiAndUrl] else []) ++
    if entry.title.isNone then [.title] else []

def missingOf (entries : List BibEntry) : List (Text × MissingField) :=
  entries.flatMap fun entry => entry.missing.map (entry.key, ·)

end BibEntry

end CourseLint
