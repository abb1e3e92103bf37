import CourseLint.Text.Casing

set_option autoImplicit false

namespace CourseLint

structure Code where
  value : Text
deriving DecidableEq, Repr

namespace Code

def documentation : Text :=
  "https://github.com/galaxyproject/training-material/wiki/Error-Codes"

def anchor (code : Code) : Text := Text.lower (code.value.filter (· != ':'))

def url (code : Code) : Text := documentation ++ '#' :: code.anchor

end Code

end CourseLint
