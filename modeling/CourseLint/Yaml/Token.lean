import CourseLint.Yaml.Address
import CourseLint.Yaml.Scalar

set_option autoImplicit false

namespace CourseLint.Yaml

inductive Token where
  | version (major minor : Nat)
  | tagDirective (handle : Text) (full : Option Text)
  | documentStart
  | documentEnd
  | blockSequenceStart
  | blockMappingStart
  | blockEnd
  | flowSequenceStart
  | flowSequenceEnd
  | flowMappingStart
  | flowMappingEnd
  | blockEntry
  | flowEntry
  | key
  | value
  | alias (name : Text)
  | anchor (name : Text)
  | tag (handle : Text) (suffix : Option Text)
  | scalar (isPlain : Bool) (text : Text)
deriving DecidableEq, Repr

structure KeyMark where
  tokensBefore : Nat
  isRequired : Bool
  index : Nat
  line : Nat
  column : Nat

structure Scan where
  place : Place
  tokens : List Token
  flowLevel : Nat
  indent : Int
  indents : List Int
  mayBeKey : Bool
  keyMark : Option KeyMark
  outerKeyMarks : List (Option KeyMark)

namespace Scan

def ofText (text : Text) : Scan where
  place := Place.ofText text
  tokens := []
  flowLevel := 0
  indent := -1
  indents := []
  mayBeKey := true
  keyMark := none
  outerKeyMarks := []

def inFlow (scan : Scan) : Bool := scan.flowLevel != 0

def column (scan : Scan) : Int := scan.place.column

def emit (scan : Scan) (token : Token) : Scan := { scan with tokens := token :: scan.tokens }

def emitAfter (scan : Scan) (count : Nat) (token : Token) : Scan :=
  let newer := scan.tokens.length - count
  { scan with tokens := scan.tokens.take newer ++ token :: scan.tokens.drop newer }

def closeDeeper (column : Int) : List Int → Scan → Scan
  | [], scan => scan
  | outer :: outers, scan =>
    if column < scan.indent then
      closeDeeper column outers { scan.emit .blockEnd with indent := outer, indents := outers }
    else scan

def unrollTo (scan : Scan) (column : Int) : Scan :=
  if scan.inFlow then scan else closeDeeper column scan.indents scan

def openBlock (scan : Scan) (column : Int) (tokensBefore : Nat) (token : Token) : Scan :=
  if !scan.inFlow && decide (scan.indent < column) then
    { scan.emitAfter tokensBefore token with
      indent := column, indents := scan.indent :: scan.indents }
  else scan

def dropKeyMark (scan : Scan) : Except Fault Scan :=
  if (scan.keyMark.map KeyMark.isRequired).getD false then .error .missingColon
  else .ok { scan with keyMark := none }

def markKey (scan : Scan) : Except Fault Scan :=
  if scan.mayBeKey then do
    let scan ← scan.dropKeyMark
    let isRequired := !scan.inFlow && scan.indent == scan.column
    pure { scan with
      keyMark := some ⟨scan.tokens.length, isRequired, scan.place.index, scan.place.line,
        scan.place.column⟩ }
  else .ok scan

def isStale (scan : Scan) (mark : KeyMark) : Bool :=
  decide (mark.line < scan.place.line) || decide (mark.index + 1024 < scan.place.index)

def withoutStale (scan : Scan) (mark : Option KeyMark) : Except Fault (Option KeyMark) :=
  match mark with
  | none => .ok none
  | some mark =>
    if !scan.isStale mark then .ok (some mark)
    else if mark.isRequired then .error .missingColon
    else .ok none

def dropStaleKeyMarks (scan : Scan) : Except Fault Scan := do
  let keyMark ← scan.withoutStale scan.keyMark
  let outerKeyMarks ← scan.outerKeyMarks.mapM scan.withoutStale
  pure { scan with keyMark := keyMark, outerKeyMarks := outerKeyMarks }

def toNextToken : Nat → Scan → Scan
  | 0, scan => scan
  | fuel + 1, scan =>
    let passes (c : Char) : Bool := c == ' ' || (c == '\t' && (scan.inFlow || !scan.mayBeKey))
    let place := if scan.place.isAtByteOrderMark then scan.place.skip 1 else scan.place
    let place := place.skipWhile passes
    let place := if startsWith (· == '#') place.rest then place.skipToLineEnd else place
    if startsWith isBreak place.rest then
      toNextToken fuel
        { scan with place := place.skipBreak, mayBeKey := scan.mayBeKey || !scan.inFlow }
    else { scan with place := place }

def takeStreamEnd (scan : Scan) : Except Fault Scan := (scan.unrollTo (-1)).dropKeyMark

def takeDocumentMark (scan : Scan) (token : Token) : Except Fault Scan := do
  let scan ← (scan.unrollTo (-1)).dropKeyMark
  pure { scan.emit token with mayBeKey := false, place := scan.place.skip 3 }

def versionNumber (text : Text) : Except Fault (Nat × Text) :=
  let digits := text.takeWhile Char.isDigit
  if digits.isEmpty ∨ 9 < digits.length then .error .directive
  else .ok (Text.decimal digits, text.dropWhile Char.isDigit)

def tagHandle (isDirective : Bool) (text : Text) : Except Fault (Text × Text) :=
  match text with
  | '!' :: rest =>
    let name := rest.takeWhile isNameChar
    match rest.dropWhile isNameChar with
    | '!' :: left => .ok ('!' :: name ++ ['!'], left)
    | left =>
      if isDirective ∧ !name.isEmpty then .error .tag else .ok ('!' :: name, left)
  | _ => .error .tag

def isTagChar (inBrackets : Bool) (c : Char) : Bool :=
  isNameChar c ||
    [';', '/', '?', ':', '@', '&', '=', '+', '$', '.', '%', '!', '~', '*', '\'', '(',
      ')'].contains c ||
    (inBrackets && [',', '[', ']'].contains c)

def tagAddress (inBrackets : Bool) (before text : Text) : Except Fault (Option Text × Text) := do
  let written := text.takeWhile (isTagChar inBrackets)
  if before.isEmpty && written.isEmpty then throw .tag
  let address ← unescapeAddress (before.drop 1 ++ written)
  pure (address, text.dropWhile (isTagChar inBrackets))

def directive (text : Text) : Except Fault (Token × Text) := do
  let name := text.takeWhile isNameChar
  let left := text.dropWhile isNameChar
  if name.isEmpty || !atWordEnd left then throw .directive
  let left := left.dropWhile isBlank
  if name = "YAML".toList then
    let (major, left) ← versionNumber left
    match left with
    | '.' :: left => do
      let (minor, left) ← versionNumber left
      pure (.version major minor, left)
    | _ => throw .directive
  else if name = "TAG".toList then
    let (handle, left) ← tagHandle true left
    if !startsWith isBlank left then throw .directive
    let (full, left) ← tagAddress true [] (left.dropWhile isBlank)
    if !atWordEnd left then throw .directive
    pure (.tagDirective handle full, left)
  else throw .directive

def takeDirective (scan : Scan) : Except Fault Scan := do
  let scan ← (scan.unrollTo (-1)).dropKeyMark
  let (token, left) ← directive (scan.place.rest.drop 1)
  let place := (scan.place.skip (scan.place.rest.length - left.length)).skipBlanksAndComment
  if !atLineEnd place.rest then throw .directive
  pure { scan.emit token with mayBeKey := false, place := place.skipBreak }

def takeFlowStart (scan : Scan) (token : Token) : Except Fault Scan := do
  let scan ← scan.markKey
  pure { scan.emit token with
    place := scan.place.skip 1, mayBeKey := true, flowLevel := scan.flowLevel + 1,
    keyMark := none, outerKeyMarks := scan.keyMark :: scan.outerKeyMarks }

def takeFlowEnd (scan : Scan) (token : Token) : Except Fault Scan := do
  let scan ← scan.dropKeyMark
  let scan := { scan.emit token with place := scan.place.skip 1, mayBeKey := false }
  match scan.flowLevel, scan.outerKeyMarks with
  | level + 1, outer :: outers =>
    pure { scan with flowLevel := level, keyMark := outer, outerKeyMarks := outers }
  | _, _ => pure scan

def takeFlowEntry (scan : Scan) : Except Fault Scan := do
  let scan ← scan.dropKeyMark
  pure { scan.emit .flowEntry with place := scan.place.skip 1, mayBeKey := true }

def takeBlockEntry (scan : Scan) : Except Fault Scan := do
  if !scan.inFlow && !scan.mayBeKey then throw .notAllowedHere
  let scan := scan.openBlock scan.column scan.tokens.length .blockSequenceStart
  let scan ← scan.dropKeyMark
  pure { scan.emit .blockEntry with place := scan.place.skip 1, mayBeKey := true }

def takeKey (scan : Scan) : Except Fault Scan := do
  if !scan.inFlow && !scan.mayBeKey then throw .notAllowedHere
  let scan := scan.openBlock scan.column scan.tokens.length .blockMappingStart
  let scan ← scan.dropKeyMark
  pure { scan.emit .key with place := scan.place.skip 1, mayBeKey := !scan.inFlow }

def takeValue (scan : Scan) : Except Fault Scan := do
  match scan.keyMark with
  | some mark =>
    let scan := scan.emitAfter mark.tokensBefore .key
    let scan := scan.openBlock mark.column mark.tokensBefore .blockMappingStart
    pure { scan.emit .value with place := scan.place.skip 1, mayBeKey := false, keyMark := none }
  | none =>
    if !scan.inFlow && !scan.mayBeKey then throw .notAllowedHere
    let scan := scan.openBlock scan.column scan.tokens.length .blockMappingStart
    pure { scan.emit .value with place := scan.place.skip 1, mayBeKey := !scan.inFlow }

def endsAnchor (text : Text) : Bool :=
  atWordEnd text || startsWith (['?', ':', ',', ']', '}', '%', '@', '`'].contains ·) text

def takeAnchor (scan : Scan) (token : Text → Token) : Except Fault Scan := do
  let scan ← scan.markKey
  let (name, place) := (scan.place.skip 1).takeWhile isNameChar
  if name.isEmpty || !endsAnchor place.rest then throw .anchor
  pure { scan.emit (token name) with place := place, mayBeKey := false }

def tagParts (text : Text) : Except Fault (Text × Option Text × Text) :=
  match text with
  | '!' :: '<' :: rest => do
    let (address, left) ← tagAddress true [] rest
    match left with
    | '>' :: left => pure ([], address, left)
    | _ => throw .tag
  | _ => do
    let (handle, left) ← tagHandle false text
    if 1 < handle.length ∧ handle.getLast? = some '!' then
      let (suffix, left) ← tagAddress false [] left
      pure (handle, suffix, left)
    else
      let (suffix, left) ← tagAddress false handle left
      if suffix = some [] then pure ([], some ['!'], left) else pure (['!'], suffix, left)

def takeTag (scan : Scan) : Except Fault Scan := do
  let scan ← scan.markKey
  let (handle, suffix, left) ← tagParts scan.place.rest
  let endsFlow := scan.inFlow && startsWith (· == ',') left
  if !endsFlow && !atWordEnd left then throw .tag
  pure { scan.emit (.tag handle suffix) with
    place := scan.place.skip (scan.place.rest.length - left.length), mayBeKey := false }

def takeBlock (scan : Scan) (isLiteral : Bool) : Except Fault Scan := do
  let scan ← scan.dropKeyMark
  let (text, place) ← readBlock isLiteral scan.indent scan.place
  pure { scan.emit (.scalar false text) with place := place, mayBeKey := true }

def takeQuoted (scan : Scan) (quote : Char) : Except Fault Scan := do
  let scan ← scan.markKey
  let (text, place) ← readQuoted quote (scan.place.rest.length + 1) [] (scan.place.skip 1)
  pure { scan.emit (.scalar false text) with place := place, mayBeKey := false }

def takePlain (scan : Scan) : Except Fault Scan := do
  let scan ← scan.markKey
  let scalar ← readPlain scan.inFlow (scan.indent + 1) (scan.place.rest.length + 1) [] Gap.none
    scan.place
  pure { scan.emit (.scalar true scalar.text) with
    place := scalar.place, mayBeKey := scalar.endsBroken }

def startsPlain (inFlow : Bool) (c : Char) (rest : Text) : Bool :=
  let isSign := ['-', '?', ':', ',', '[', ']', '{', '}', '#', '&', '*', '!', '|', '>', '\'', '"',
    '%', '@', '`'].contains c
  (!isSign && !isBlank c && !isBreak c) || (c == '-' && !startsWith isBlank rest) ||
    (!inFlow && (c == '?' || c == ':') && !atWordEnd rest)

def takeToken (scan : Scan) (c : Char) (rest : Text) : Except Fault Scan :=
  if scan.place.column = 0 ∧ c = '%' then scan.takeDirective
  else if scan.place.isAtDocumentStart then scan.takeDocumentMark .documentStart
  else if scan.place.isAtDocumentEnd then scan.takeDocumentMark .documentEnd
  else if c = '[' then scan.takeFlowStart .flowSequenceStart
  else if c = '{' then scan.takeFlowStart .flowMappingStart
  else if c = ']' then scan.takeFlowEnd .flowSequenceEnd
  else if c = '}' then scan.takeFlowEnd .flowMappingEnd
  else if c = ',' then scan.takeFlowEntry
  else if c = '-' ∧ atWordEnd rest then scan.takeBlockEntry
  else if c = '?' ∧ (scan.inFlow ∨ atWordEnd rest) then scan.takeKey
  else if c = ':' ∧ (scan.inFlow ∨ atWordEnd rest) then scan.takeValue
  else if c = '*' then scan.takeAnchor .alias
  else if c = '&' then scan.takeAnchor .anchor
  else if c = '!' then scan.takeTag
  else if c = '|' ∧ !scan.inFlow then scan.takeBlock true
  else if c = '>' ∧ !scan.inFlow then scan.takeBlock false
  else if c = '\'' ∨ c = '"' then scan.takeQuoted c
  else if startsPlain scan.inFlow c rest then scan.takePlain
  else .error .character

def run : Nat → Scan → Except Fault Scan
  | 0, scan => scan.takeStreamEnd
  | fuel + 1, scan => do
    let scan := toNextToken (scan.place.rest.length + 1) scan
    let scan ← scan.dropStaleKeyMarks
    let scan := scan.unrollTo scan.column
    match scan.place.rest with
    | [] => scan.takeStreamEnd
    | c :: rest => do
      let scan ← scan.takeToken c rest
      run fuel scan

end Scan

def isStreamChar (c : Char) : Bool :=
  c == '\t' || c == '\n' || c == '\r' || c == '\u0085' ||
    (0x20 ≤ c.toNat && c.toNat ≤ 0x7E) || (0xA0 ≤ c.toNat && c.toNat ≤ 0xFFFD) || 0x10000 ≤ c.toNat

def tokensOf (text : Text) : Except Fault (List Token) := do
  if !text.all isStreamChar then throw .character
  let scan ← Scan.run (text.length + 1) (Scan.ofText text)
  pure scan.tokens.reverse

end CourseLint.Yaml
