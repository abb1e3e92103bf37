import CourseLint.Bibliography.Command
import CourseLint.Bibliography.Source

set_option autoImplicit false

namespace CourseLint.Bibliography

structure Stretch where
  isLoose : Bool
  text : Text
deriving DecidableEq, Repr

abbrev Content := List Stretch

def Content.prepend (isLoose : Bool) (text : Text) : Content → Content
  | [] => [⟨isLoose, text⟩]
  | stretch :: rest =>
    if stretch.isLoose = isLoose then ⟨isLoose, text ++ stretch.text⟩ :: rest
    else ⟨isLoose, text⟩ :: stretch :: rest

def Content.append (content : Content) (next : Content) : Content :=
  content.foldr (fun stretch => prepend stretch.isLoose stretch.text) next

def withoutLineBreaks (afterBlank : Bool) : Text → Text
  | [] => []
  | c :: rest =>
    if c = '\n' ∨ c = '\r' then
      if afterBlank then withoutLineBreaks true rest else ' ' :: withoutLineBreaks true rest
    else c :: withoutLineBreaks (Text.isBlankChar c) rest

def Stretch.plain (stretch : Stretch) : Text :=
  if stretch.isLoose then withoutLineBreaks false stretch.text else stretch.text

def Content.text (content : Content) : Text := content.flatMap Stretch.plain

def isVerbatimField (name : Text) : Bool :=
  ["doi".toList, "url".toList, "urlraw".toList, "uri".toList, "file".toList, "eprint".toList,
    "pdf".toList, "verba".toList, "verbb".toList, "verbc".toList].contains name

def isEscapable (verbatim : Bool) (c : Char) : Bool :=
  ['{', '}', '\\', ':'].contains c || (!verbatim && ['&', '%', '$', '#', '_'].contains c)

def argument? (depth : Nat) : Text → Option (Text × Text)
  | [] => none
  | '{' :: rest => (argument? (depth + 1) rest).map fun (text, left) => ('{' :: text, left)
  | '}' :: rest =>
    match depth with
    | 0 => some ([], rest)
    | depth + 1 => (argument? depth rest).map fun (text, left) => ('}' :: text, left)
  | c :: rest => (argument? depth rest).map fun (text, left) => (c :: text, left)

def dash : Text → Char × Text
  | '-' :: '-' :: rest => ('—', rest)
  | '-' :: rest => ('–', rest)
  | rest => ('-', rest)

def commandName (c : Char) (rest : Text) : Text × Text :=
  if isWholeCommand c then ([c], rest)
  else (c :: rest.takeWhile inIdentifier, rest.dropWhile inIdentifier)

def contentFrom (verbatim : Bool) : Nat → Nat → Text → Option Content
  | 0, _, _ => some []
  | _ + 1, _, [] => some []
  | fuel + 1, depth, '\\' :: rest =>
    let here := Content.prepend (depth == 0)
    match rest with
    | [] => if verbatim then some (here ['\\'] []) else none
    | c :: rest =>
      if isEscapable verbatim c then (contentFrom verbatim fuel depth rest).map (here [c])
      else if verbatim then (contentFrom verbatim fuel depth (c :: rest)).map (here ['\\'])
      else if Text.isBlankChar c || isControlChar c then
        (contentFrom verbatim fuel depth (c :: rest)).map (here ['\\', c])
      else
        let (command, left) := commandName c rest
        let next := Text.trimStart left
        if left.head? = some '{' then do
          let (argument, left) ← argument? 0 (left.drop 1)
          let argument ← contentFrom verbatim fuel 0 argument
          let content ← contentFrom verbatim fuel depth left
          pure (here (expand command (some argument.text)) content)
        else if isSignCommand c && next.head? != some '{' then
          (contentFrom verbatim fuel depth (next.drop 1)).map
            (here (expand command (some (next.take 1))))
        else (contentFrom verbatim fuel depth next).map (here (expand command none))
  | fuel + 1, depth, c :: rest =>
    let here := Content.prepend (depth == 0)
    if c = '{' then (contentFrom verbatim fuel (depth + 1) rest).map (Content.prepend false [])
    else if c = '}' then
      if depth = 0 then none else contentFrom verbatim fuel (depth - 1) rest
    else if c = '$' ∧ !verbatim then
      match rest.dropWhile (· != '$') with
      | [] => none
      | _ :: left =>
        (contentFrom verbatim fuel depth left).map
          (Content.prepend false ('$' :: rest.takeWhile (· != '$') ++ ['$']))
    else if Text.isBlankChar c then
      (contentFrom verbatim fuel depth (Text.trimStart rest)).map (here [' '])
    else if c = '-' then
      let (dash, left) := dash rest
      (contentFrom verbatim fuel depth left).map (here [dash])
    else (contentFrom verbatim fuel depth rest).map (here [c])

def content? (verbatim : Bool) (text : Text) : Option Content :=
  contentFrom verbatim (text.length + 1) 0 text

end CourseLint.Bibliography
