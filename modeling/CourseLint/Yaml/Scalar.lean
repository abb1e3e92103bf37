import CourseLint.Yaml.Place

set_option autoImplicit false

namespace CourseLint.Yaml

structure Gap where
  isBroken : Bool
  blanks : Text
  firstBreak : Text
  laterBreaks : Text

def Gap.none : Gap := ⟨false, [], [], []⟩

def Gap.fold (gap : Gap) : Text :=
  if !gap.isBroken then gap.blanks
  else if gap.firstBreak = ['\n'] then
    if gap.laterBreaks.isEmpty then [' '] else gap.laterBreaks
  else gap.firstBreak ++ gap.laterBreaks

def readGap (indent : Int) : Nat → Gap → Place → Except Fault (Gap × Place)
  | 0, gap, place => .ok (gap, place)
  | fuel + 1, gap, place =>
    match place.rest with
    | [] => .ok (gap, place)
    | c :: _ =>
      if isBlank c then
        if gap.isBroken then
          if place.column < indent ∧ c = '\t' then .error .scalar
          else readGap indent fuel gap (place.skip 1)
        else readGap indent fuel { gap with blanks := gap.blanks ++ [c] } (place.skip 1)
      else if isBreak c then
        let (lineBreak, next) := place.takeBreak
        if gap.isBroken then
          readGap indent fuel { gap with laterBreaks := gap.laterBreaks ++ lineBreak } next
        else
          readGap indent fuel
            { gap with isBroken := true, blanks := [], firstBreak := lineBreak } next
      else .ok (gap, place)

def isFlowSign (c : Char) : Bool := [',', '[', ']', '{', '}'].contains c

def plainWord (inFlow : Bool) : Text → Except Fault Text
  | [] => .ok []
  | c :: rest =>
    if atWordEnd (c :: rest) then .ok []
    else if inFlow ∧ c = ':' ∧ startsWith (fun d => isFlowSign d || d == '?') rest then
      .error .scalar
    else if c = ':' ∧ atWordEnd rest then .ok []
    else if inFlow ∧ isFlowSign c then .ok []
    else (plainWord inFlow rest).map (c :: ·)

structure PlainScalar where
  text : Text
  place : Place
  -- Whether a line break was passed behind the last word.
  endsBroken : Bool

def readPlain (inFlow : Bool) (indent : Int) : Nat → Text → Gap → Place → Except Fault PlainScalar
  | 0, text, gap, place => .ok ⟨text, place, gap.isBroken⟩
  | fuel + 1, text, gap, place =>
    if place.isAtDocumentMark || startsWith (· == '#') place.rest then
      .ok ⟨text, place, gap.isBroken⟩
    else do
      let word ← plainWord inFlow place.rest
      let place := place.skip word.length
      let (text, gap) := if word.isEmpty then (text, gap) else (text ++ gap.fold ++ word, Gap.none)
      if place.rest.isEmpty || !atWordEnd place.rest then pure ⟨text, place, gap.isBroken⟩
      else
        let (gap, place) ← readGap indent (place.rest.length + 1) gap place
        if !inFlow && decide (place.column < indent) then pure ⟨text, place, gap.isBroken⟩
        else readPlain inFlow indent fuel text gap place

def hexChar (digits : Text) (count : Nat) : Option Char := do
  let n ← hexValue digits
  if digits.length = count ∧ n.isValidChar then pure (Char.ofNat n) else none

def escape? : Text → Option (Char × Nat)
  | [] => none
  | c :: rest =>
    match c with
    | '0' => some ('\x00', 1)
    | 'a' => some ('\x07', 1)
    | 'b' => some ('\x08', 1)
    | 't' | '\t' => some ('\t', 1)
    | 'n' => some ('\n', 1)
    | 'v' => some ('\x0b', 1)
    | 'f' => some ('\x0c', 1)
    | 'r' => some ('\r', 1)
    | 'e' => some ('\x1b', 1)
    | ' ' | '"' | '/' | '\\' => some (c, 1)
    | 'N' => some ('\u0085', 1)
    | '_' => some ('\u00A0', 1)
    | 'L' => some ('\u2028', 1)
    | 'P' => some ('\u2029', 1)
    | 'x' => (hexChar (rest.take 2) 2).map (·, 3)
    | 'u' => (hexChar (rest.take 4) 4).map (·, 5)
    | 'U' => (hexChar (rest.take 8) 8).map (·, 9)
    | _ => none

def singleQuotedWord : Text → Text × Nat
  | [] => ([], 0)
  | '\'' :: '\'' :: rest =>
    let (word, count) := singleQuotedWord rest
    ('\'' :: word, count + 2)
  | c :: rest =>
    if c = '\'' ∨ atWordEnd (c :: rest) then ([], 0)
    else
      let (word, count) := singleQuotedWord rest
      (c :: word, count + 1)

def doubleQuotedWord : Nat → Text → Except Fault (Text × Nat × Bool)
  | 0, _ => .ok ([], 0, false)
  | _ + 1, [] => .ok ([], 0, false)
  | fuel + 1, c :: rest =>
    if c = '"' ∨ atWordEnd (c :: rest) then .ok ([], 0, false)
    else if c = '\\' then
      if startsWith isBreak rest then .ok ([], 1, true)
      else
        match escape? rest with
        | none => .error .scalar
        | some (d, taken) =>
          (doubleQuotedWord fuel (rest.drop taken)).map fun (word, count, joins) =>
            (d :: word, taken + 1 + count, joins)
    else
      (doubleQuotedWord fuel rest).map fun (word, count, joins) => (c :: word, count + 1, joins)

def quotedWord (quote : Char) (text : Text) : Except Fault (Text × Nat × Bool) :=
  if quote = '\'' then
    let (word, count) := singleQuotedWord text
    .ok (word, count, false)
  else doubleQuotedWord (text.length + 1) text

def readQuoted (quote : Char) : Nat → Text → Place → Except Fault (Text × Place)
  | 0, _, _ => .error .scalar
  | fuel + 1, text, place =>
    if place.isAtDocumentMark || place.rest.isEmpty then .error .scalar
    else do
      let (word, count, joinsLines) ← quotedWord quote place.rest
      let text := text ++ word
      let place := place.skip count
      let place := if joinsLines then place.skipBreak else place
      if startsWith (· == quote) place.rest then pure (text, place.skip 1)
      else
        let gap := if joinsLines then { Gap.none with isBroken := true } else Gap.none
        let (gap, place) ← readGap 0 (place.rest.length + 1) gap place
        readQuoted quote fuel (text ++ gap.fold) place

inductive Chomping where
  | strip
  | clip
  | keep
deriving DecidableEq, Repr

def blockHeader (text : Text) : Except Fault (Chomping × Option Nat × Nat) :=
  let chomping? (c : Char) : Option Chomping :=
    if c = '+' then some .keep else if c = '-' then some .strip else none
  let increment? (c : Char) : Option Nat := if c.isDigit then some (c.toNat - '0'.toNat) else none
  let checked (chomping : Chomping) (increment : Nat) (count : Nat) :=
    if increment = 0 then .error .scalar else .ok (chomping, some increment, count)
  match text with
  | [] => .ok (.clip, none, 0)
  | c :: rest =>
    match chomping? c, increment? c, rest.head?.bind chomping?, rest.head?.bind increment? with
    | some chomping, _, _, some increment => checked chomping increment 2
    | some chomping, _, _, none => .ok (chomping, none, 1)
    | none, some increment, some chomping, _ => checked chomping increment 2
    | none, some increment, none, _ => checked .clip increment 1
    | none, none, _, _ => .ok (.clip, none, 0)

structure BlockBreaks where
  breaks : Text
  deepest : Nat
  place : Place

def readBlockBreaks (indent : Option Nat) : Nat → BlockBreaks → Except Fault BlockBreaks
  | 0, state => .ok state
  | fuel + 1, state =>
    let below (place : Place) : Bool := (indent.map (decide <| place.column < ·)).getD true
    let blanks := state.place.rest.takeWhile (· == ' ')
    let count := (indent.map fun n => min blanks.length (n - state.place.column)).getD blanks.length
    let place := state.place.skip count
    let deepest := max state.deepest place.column
    if below place && startsWith (· == '\t') place.rest then .error .scalar
    else if startsWith isBreak place.rest then
      let (lineBreak, place) := place.takeBreak
      readBlockBreaks indent fuel ⟨state.breaks ++ lineBreak, deepest, place⟩
    else .ok ⟨state.breaks, deepest, place⟩

structure BlockState where
  text : Text
  lastBreak : Text
  laterBreaks : Text
  lastStartedBlank : Bool
  place : Place

def readBlockLines (isLiteral : Bool) (indent : Nat) : Nat → BlockState → Except Fault BlockState
  | 0, state => .ok state
  | fuel + 1, state =>
    if state.place.column = indent ∧ !state.place.rest.isEmpty then do
      let startsBlank := startsWith isBlank state.place.rest
      let folds :=
        !isLiteral && state.lastBreak == ['\n'] && !state.lastStartedBlank && !startsBlank
      let between :=
        if folds then (if state.laterBreaks.isEmpty then [' '] else state.laterBreaks)
        else state.lastBreak ++ state.laterBreaks
      let (line, place) := state.place.takeWhile (!isBreak ·)
      let (lineBreak, place) := place.takeBreak
      let later ← readBlockBreaks (some indent) (place.rest.length + 1) ⟨[], 0, place⟩
      readBlockLines isLiteral indent fuel
        ⟨state.text ++ between ++ line, lineBreak, later.breaks, startsBlank, later.place⟩
    else .ok state

def readBlock (isLiteral : Bool) (outer : Int) (place : Place) : Except Fault (Text × Place) := do
  let place := place.skip 1
  let (chomping, increment, count) ← blockHeader place.rest
  let place := (place.skip count).skipBlanksAndComment
  if !atLineEnd place.rest then throw .scalar
  let place := if place.rest.isEmpty then place else place.skipBreak
  let given := increment.map fun n => if outer < 0 then n else outer.toNat + n
  let first ← readBlockBreaks given (place.rest.length + 1) ⟨[], 0, place⟩
  let indent := given.getD (max first.deepest (max 1 (outer + 1).toNat))
  let state ← readBlockLines isLiteral indent (place.rest.length + 1)
    ⟨[], [], first.breaks, false, first.place⟩
  let final :=
    match chomping with
    | .strip => []
    | .clip => state.lastBreak
    | .keep => state.lastBreak ++ state.laterBreaks
  pure (state.text ++ final, state.place)

end CourseLint.Yaml
