import CourseLint.Bibliography.Content

set_option autoImplicit false

namespace CourseLint.Bibliography

def partsOf (text : Text) : List Text :=
  let parts := Text.splitOn ',' text
  let parts := parts.take 1 ++ (parts.drop 1).map Text.trimStart
  parts.dropLast.map Text.trimEnd ++ parts.drop (parts.length - 1)

def goOn : List Content → List Content → List Content
  | [], names => names
  | [last], name :: names => (last ++ name) :: names
  | name :: names, more => name :: goOn names more

def Stretch.names (stretch : Stretch) : List Content :=
  let parts := if stretch.isLoose then partsOf stretch.text else [stretch.text]
  parts.map fun part => [⟨stretch.isLoose, part⟩]

def names (list : Content) : List Text :=
  (list.foldr (fun stretch => goOn stretch.names) [[]]).map Content.text

end CourseLint.Bibliography
