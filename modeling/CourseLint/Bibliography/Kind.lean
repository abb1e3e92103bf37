import CourseLint.Text.Basic

set_option autoImplicit false

namespace CourseLint.Bibliography

def needsDate (kind : Text) : Bool :=
  !(["booklet".toList, "manual".toList, "misc".toList, "set".toList, "software".toList,
    "unpublished".toList, "xdata".toList].contains kind)

def isOnline (kind : Text) : Bool :=
  ["online".toList, "electronic".toList, "www".toList].contains kind

def takesOver (kind name : Text) : Bool :=
  if kind = "xdata".toList then
    !(["title".toList, "addendum".toList, "note".toList].contains name)
  else if kind = "set".toList then false
  else name = "url".toList ∨ (name = "doi".toList ∧ !isOnline kind)

end CourseLint.Bibliography
