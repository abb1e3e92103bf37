import CourseLint.Text.Basic

set_option autoImplicit false

namespace CourseLint

abbrev Path := Text

inductive Component where
  | root
  | current
  | parent
  | name (text : Text)
deriving DecidableEq, Repr

namespace Path

def isAbsolute (path : Path) : Bool := path.head? == some '/'

def component? (isFirst : Bool) (part : Text) : Option Component :=
  if part = [] then none
  else if part = ['.'] then (if isFirst then some .current else none)
  else if part = ['.', '.'] then some .parent
  else some (.name part)

def componentsAfter (isFirst : Bool) : List Text → List Component
  | [] => []
  | part :: parts => (component? isFirst part).toList ++ componentsAfter false parts

def components (path : Path) : List Component :=
  if isAbsolute path then .root :: componentsAfter false (Text.splitOn '/' path)
  else componentsAfter true (Text.splitOn '/' path)

def dropUncounted : List Text → List Text
  | [] => []
  | part :: before =>
    if (component? before.isEmpty part).isSome then part :: before else dropUncounted before

def parent? (path : Path) : Option Path :=
  match (components path).getLast? with
  | none | some .root => none
  | some _ =>
    let kept := (dropUncounted (dropUncounted (Text.splitOn '/' path).reverse).tail).reverse
    if isAbsolute path && kept.isEmpty then some ['/'] else some (Text.joinWith ['/'] kept)

def join (base relative : Path) : Path :=
  if isAbsolute relative || base.isEmpty then relative
  else if base.getLast? == some '/' then base ++ relative
  else base ++ '/' :: relative

def fileName? (path : Path) : Option Text :=
  match (components path).getLast? with
  | some (.name text) => some text
  | _ => none

def behindLast? {α : Type} [BEq α] (dot : α) (name : List α) : Option (List α) :=
  let reversed := name.reverse
  match reversed.dropWhile (· != dot) with
  | _ :: _ :: _ => some (reversed.takeWhile (· != dot)).reverse
  | _ => none

def extension? (path : Path) : Option Text := (fileName? path).bind (behindLast? '.')

end Path

end CourseLint
