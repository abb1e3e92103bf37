import CourseLint.Bibliography.Reader

set_option autoImplicit false

namespace CourseLint.Bibliography

inductive Token where
  | identifier
  | openingBrace
  | closingBrace
  | comma
  | quotationMark
  | equals
deriving DecidableEq, Repr

def Token.name : Token → Text
  | .identifier => "identifier"
  | .openingBrace => "opening brace"
  | .closingBrace => "closing brace"
  | .comma => "comma"
  | .quotationMark => "double quote"
  | .equals => "equals"

inductive Fault where
  | endOfFile
  | expected (token : Token)
  | decimalPoint
deriving DecidableEq, Repr

def Fault.name : Fault → Text
  | .endOfFile => "unexpected end of file"
  | .expected token => "expected " ++ token.name
  | .decimalPoint => "unexpected decimal point"

structure Stop where
  fault : Fault
  left : Text
deriving DecidableEq, Repr

def Stop.message (stop : Stop) (offset : Nat) : Text :=
  stop.fault.name ++ ": " ++ Text.ofNat offset ++ "-" ++ Text.ofNat offset

def isControlChar (c : Char) : Bool := c.toNat < 0x20 || (0x7F ≤ c.toNat && c.toNat < 0xA0)

def inIdentifier (c : Char) : Bool :=
  !isControlChar c && !Text.isBlankChar c &&
    !(['@', '{', '}', '"', '#', '\'', '(', ')', ',', '=', '%', '\\', '~'].contains c)

def startsIdentifier (c : Char) : Bool := inIdentifier c && !([':', '<', '-', '>'].contains c)

def identifier : Text → Except Stop (Text × Text)
  | [] => .error ⟨.expected .identifier, []⟩
  | c :: rest =>
    if startsIdentifier c then .ok (c :: rest.takeWhile inIdentifier, rest.dropWhile inIdentifier)
    else .error ⟨.expected .identifier, c :: rest⟩

def braced (depth : Nat) : Text → Except Stop (Text × Text)
  | [] => .error ⟨.endOfFile, []⟩
  | ['\\'] => .error ⟨.endOfFile, []⟩
  | '\\' :: c :: rest => (braced depth rest).map fun (text, left) => ('\\' :: c :: text, left)
  | '{' :: rest => (braced (depth + 1) rest).map fun (text, left) => ('{' :: text, left)
  | '}' :: rest =>
    match depth with
    | 0 => .ok ([], rest)
    | depth + 1 => (braced depth rest).map fun (text, left) => ('}' :: text, left)
  | c :: rest => (braced depth rest).map fun (text, left) => (c :: text, left)

def quoted : Text → Except Stop (Text × Text)
  | [] => .error ⟨.endOfFile, []⟩
  | ['\\'] => .error ⟨.endOfFile, []⟩
  | '\\' :: c :: rest => (quoted rest).map fun (text, left) => ('\\' :: c :: text, left)
  | '"' :: rest => .ok ([], rest)
  | c :: rest => (quoted rest).map fun (text, left) => (c :: text, left)

def number (hasPoint : Bool) : Text → Except Stop (Text × Text)
  | [] => .error ⟨.endOfFile, []⟩
  | c :: rest =>
    if c.isDigit then (number hasPoint rest).map fun (text, left) => (c :: text, left)
    else if c = '.' then
      if hasPoint then .error ⟨.decimalPoint, c :: rest⟩
      else (number true rest).map fun (text, left) => (c :: text, left)
    else .ok ([], c :: rest)

def part : Text → Except Stop (Part × Text)
  | [] => .error ⟨.endOfFile, []⟩
  | c :: rest =>
    if c = '{' then (braced 0 rest).map fun (text, left) => (.written text, left)
    else if c = '"' then (quoted rest).map fun (text, left) => (.written text, left)
    else if c.isDigit then (number false (c :: rest)).map fun (text, left) => (.written text, left)
    else if startsIdentifier c then
      (identifier (c :: rest)).map fun (name, left) => (.abbreviation name, left)
    else .error ⟨.endOfFile, c :: rest⟩

def value : Nat → Text → Except Stop (List Part × Text)
  | 0, text => .error ⟨.endOfFile, text⟩
  | fuel + 1, text => do
    let (first, left) ← part (Text.trimStart text)
    match Text.trimStart left with
    | '#' :: left => (value fuel left).map fun (parts, left) => (first :: parts, left)
    | left => .ok ([first], left)

def field (text : Text) : Except Stop (Field × Text) := do
  let (name, left) ← identifier text
  match Text.trimStart left with
  | '=' :: left => (value (left.length + 1) left).map fun (parts, left) => (⟨name, parts⟩, left)
  | left => .error ⟨.expected .equals, left⟩

def fields : Nat → Text → Except Stop (List Field × Text)
  | 0, text => .error ⟨.endOfFile, text⟩
  | fuel + 1, text =>
    if text.isEmpty then .error ⟨.endOfFile, text⟩
    else
      match Text.trimStart text with
      | '}' :: left => .ok ([], '}' :: left)
      | text => do
        let (first, left) ← field text
        match left with
        | ',' :: left => (fields fuel left).map fun (more, left) => (first :: more, left)
        | '}' :: left => .ok ([first], '}' :: left)
        | left => .error ⟨.expected .comma, left⟩

def inKey (c : Char) : Bool :=
  c != ',' && c != '}' && !isControlChar c && !Text.isBlankChar c

inductive Body where
  | entry (key : Text) (fields : List Field)
  | abbreviations (fields : List Field)
  | ignored
deriving DecidableEq, Repr

def body (kind text : Text) : Except Stop (Body × Text) :=
  if kind = "string".toList then
    (fields (text.length + 1) text).map fun (definitions, left) =>
      (.abbreviations definitions, left)
  else if kind = "preamble".toList then
    match text with
    | '"' :: left => (quoted left).map fun (_, left) => (.ignored, left)
    | left => .error ⟨.expected .quotationMark, left⟩
  else if kind = "comment".toList then .ok (.ignored, text.dropWhile (· != '}'))
  else
    match Text.trimStart (text.dropWhile inKey) with
    | ',' :: left =>
      let left := Text.trimStart left
      (fields (left.length + 1) left).map fun (fields, left) =>
        (.entry (text.takeWhile inKey) fields, left)
    | left => .error ⟨.expected .comma, left⟩

def item (text : Text) : Except Stop ((Text × Body) × Text) := do
  let (kind, left) ← identifier text
  match Text.trimStart left with
  | [] => .error ⟨.expected .openingBrace, []⟩
  | c :: left =>
    if c = '{' ∨ c = '"' then do
      let (body, left) ← body (Text.asciiLower kind) (Text.trimStart left)
      match Text.trimStart left with
      | [] => .error ⟨.expected .closingBrace, []⟩
      | c :: left =>
        if c = '}' ∨ c = '"' then .ok ((kind, body), left)
        else .error ⟨.expected .closingBrace, c :: left⟩
    else .error ⟨.expected .openingBrace, c :: left⟩

def Source.add (source : Source) (start : Nat) (kind : Text) : Body → Source
  | .entry key fields => { source with entries := ⟨start, kind, key, fields⟩ :: source.entries }
  | .abbreviations fields => { source with abbreviations := fields ++ source.abbreviations }
  | .ignored => source

def items (total : Nat) : Nat → Text → Except Stop Source
  | 0, _ => .ok ⟨[], []⟩
  | fuel + 1, text =>
    match text.dropWhile (· != '@') with
    | [] => .ok ⟨[], []⟩
    | c :: text => do
      let ((kind, body), left) ← item text
      let source ← items total fuel left
      pure (source.add (total - Text.width (c :: text)) kind body)

def Source.read (text : Text) : Except SourceError Source :=
  match items (Text.width text) (text.length + 1) text with
  | .ok source => .ok source
  | .error stop => .error ⟨stop.message (Text.width text - Text.width stop.left)⟩

end CourseLint.Bibliography
