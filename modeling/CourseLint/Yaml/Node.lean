import CourseLint.Yaml.Token

set_option autoImplicit false

namespace CourseLint.Yaml

inductive Node where
  | scalar (tag : Option Text) (isPlain : Bool) (text : Text)
  | sequence (entries : List Node)
  | mapping (pairs : List (Node × Node))
  | alias (number : Nat)

def Node.missing : Node := .scalar none true []

structure Anchored where
  number : Nat
  left : Nat
  node : Node

structure Parse where
  tokens : List Token
  numbers : List (Text × Nat)
  anchored : List Anchored
  handles : List (Text × Option Text)

namespace Parse

def next? (parse : Parse) : Option Token := parse.tokens.head?

def drop (parse : Parse) : Parse := { parse with tokens := parse.tokens.tail }

def nextIn (parse : Parse) (tokens : List Token) : Bool :=
  match parse.next? with
  | none => false
  | some token => tokens.contains token

structure Properties where
  anchor : Option Text
  tag : Option (Text × Option Text)

def properties (parse : Parse) : Properties × Parse :=
  match parse.tokens with
  | .anchor name :: .tag handle suffix :: rest =>
    (⟨some name, some (handle, suffix)⟩, { parse with tokens := rest })
  | .tag handle suffix :: .anchor name :: rest =>
    (⟨some name, some (handle, suffix)⟩, { parse with tokens := rest })
  | .anchor name :: rest => (⟨some name, none⟩, { parse with tokens := rest })
  | .tag handle suffix :: rest =>
    (⟨none, some (handle, suffix)⟩, { parse with tokens := rest })
  | _ => (⟨none, none⟩, parse)

def fullTag (parse : Parse) : Option (Text × Option Text) → Except Fault (Option Text)
  | none => .ok none
  | some (handle, suffix) =>
    if handle.isEmpty then .ok (some (suffix.getD []))
    else
      match parse.handles.find? (·.1 == handle) with
      | some (_, full) => .ok (some ((full.bind fun full => suffix.map (full ++ ·)).getD []))
      | none => .error .tag

def number? (parse : Parse) (anchor : Text) : Option Nat :=
  (parse.numbers.find? (·.1 == anchor)).map Prod.snd

def enter (parse : Parse) (anchor : Text) : Nat × Parse :=
  let number := parse.numbers.length
  (number, { parse with numbers := (anchor, number) :: parse.numbers.filter (·.1 != anchor) })

def keep (parse : Parse) (new : Anchored) : Parse :=
  if parse.anchored.any fun old => old.number == new.number && old.left < new.left then parse
  else { parse with anchored := new :: parse.anchored }

end Parse

def absent (properties : Parse.Properties) (tag : Option Text) (parse : Parse) :
    Except Fault (Node × Parse) :=
  if properties.anchor.isSome || properties.tag.isSome then .ok (.scalar tag true [], parse)
  else .error .notANode

mutual

def node (inBlock inMapping : Bool) : Nat → Parse → Except Fault (Node × Parse)
  | 0, _ => .error .notANode
  | fuel + 1, parse =>
    match parse.next? with
    | some (.alias name) =>
      match parse.number? name with
      | some number => .ok (.alias number, parse.drop)
      | none => .error .unknownAlias
    | _ => do
      let left := parse.tokens.length
      let (properties, parse) := parse.properties
      let tag ← parse.fullTag properties.tag
      let (number, parse) :=
        match properties.anchor with
        | some anchor => (parse.enter anchor).map some id
        | none => (none, parse)
      let (node, parse) ←
        match parse.next? with
        | some .blockEntry =>
          if inMapping then do
            let (entries, parse) ← openSequence fuel parse
            pure (.sequence entries, parse)
          else absent properties tag parse
        | some (.scalar isPlain text) => pure (.scalar tag isPlain text, parse.drop)
        | some .flowSequenceStart => do
          let (entries, parse) ← flowSequence fuel true parse.drop
          pure (.sequence entries, parse)
        | some .flowMappingStart => do
          let (pairs, parse) ← flowMapping fuel true parse.drop
          pure (.mapping pairs, parse)
        | some .blockSequenceStart =>
          if inBlock then do
            let (entries, parse) ← blockSequence fuel parse.drop
            pure (.sequence entries, parse)
          else absent properties tag parse
        | some .blockMappingStart =>
          if inBlock then do
            let (pairs, parse) ← blockMapping fuel parse.drop
            pure (.mapping pairs, parse)
          else absent properties tag parse
        | _ => absent properties tag parse
      match number with
      | some number => pure (node, parse.keep ⟨number, left, node⟩)
      | none => pure (node, parse)

def nodeUnless (tokens : List Token) (inBlock inMapping : Bool) :
    Nat → Parse → Except Fault (Node × Parse)
  | 0, _ => .error .notANode
  | fuel + 1, parse =>
    if parse.nextIn tokens then .ok (.missing, parse) else node inBlock inMapping fuel parse

def blockSequence : Nat → Parse → Except Fault (List Node × Parse)
  | 0, _ => .error .unfinishedCollection
  | fuel + 1, parse =>
    match parse.next? with
    | some .blockEntry => do
      let (entry, parse) ← nodeUnless [.blockEntry, .blockEnd] true false fuel parse.drop
      let (entries, parse) ← blockSequence fuel parse
      pure (entry :: entries, parse)
    | some .blockEnd => .ok ([], parse.drop)
    | _ => .error .unfinishedCollection

def openSequence : Nat → Parse → Except Fault (List Node × Parse)
  | 0, _ => .error .unfinishedCollection
  | fuel + 1, parse =>
    match parse.next? with
    | some .blockEntry => do
      let (entry, parse) ←
        nodeUnless [.blockEntry, .key, .value, .blockEnd] true false fuel parse.drop
      let (entries, parse) ← openSequence fuel parse
      pure (entry :: entries, parse)
    | _ => .ok ([], parse)

def blockMapping : Nat → Parse → Except Fault (List (Node × Node) × Parse)
  | 0, _ => .error .unfinishedCollection
  | fuel + 1, parse =>
    match parse.next? with
    | some .key => do
      let (key, parse) ← nodeUnless [.key, .value, .blockEnd] true true fuel parse.drop
      let (value, parse) ← blockValue fuel parse
      let (pairs, parse) ← blockMapping fuel parse
      pure ((key, value) :: pairs, parse)
    | some .blockEnd => .ok ([], parse.drop)
    | _ => .error .unfinishedCollection

def blockValue : Nat → Parse → Except Fault (Node × Parse)
  | 0, _ => .error .notANode
  | fuel + 1, parse =>
    match parse.next? with
    | some .value => nodeUnless [.key, .value, .blockEnd] true true fuel parse.drop
    | _ => .ok (.missing, parse)

def flowSequence : Nat → Bool → Parse → Except Fault (List Node × Parse)
  | 0, _, _ => .error .unfinishedCollection
  | fuel + 1, isFirst, parse =>
    match parse.next?, isFirst with
    | some .flowSequenceEnd, _ => .ok ([], parse.drop)
    | some .flowEntry, false => flowSequenceEntry fuel parse.drop
    | _, false => .error .unfinishedCollection
    | _, true => flowSequenceEntry fuel parse

def flowSequenceEntry : Nat → Parse → Except Fault (List Node × Parse)
  | 0, _ => .error .unfinishedCollection
  | fuel + 1, parse =>
    match parse.next? with
    | some .flowSequenceEnd => .ok ([], parse.drop)
    | some .key => do
      let (key, parse) ←
        nodeUnless [.value, .flowEntry, .flowSequenceEnd] false false fuel parse.drop
      let (value, parse) ← flowValue .flowSequenceEnd fuel parse
      let (entries, parse) ← flowSequence fuel false parse
      pure (.mapping [(key, value)] :: entries, parse)
    | _ => do
      let (entry, parse) ← node false false fuel parse
      let (entries, parse) ← flowSequence fuel false parse
      pure (entry :: entries, parse)

def flowValue (close : Token) : Nat → Parse → Except Fault (Node × Parse)
  | 0, _ => .error .notANode
  | fuel + 1, parse =>
    match parse.next? with
    | some .value => nodeUnless [.flowEntry, close] false false fuel parse.drop
    | _ => .ok (.missing, parse)

def flowMapping : Nat → Bool → Parse → Except Fault (List (Node × Node) × Parse)
  | 0, _, _ => .error .unfinishedCollection
  | fuel + 1, isFirst, parse =>
    match parse.next?, isFirst with
    | some .flowMappingEnd, _ => .ok ([], parse.drop)
    | some .flowEntry, false => flowMappingEntry fuel parse.drop
    | _, false => .error .unfinishedCollection
    | _, true => flowMappingEntry fuel parse

def flowMappingEntry : Nat → Parse → Except Fault (List (Node × Node) × Parse)
  | 0, _ => .error .unfinishedCollection
  | fuel + 1, parse =>
    match parse.next? with
    | some .flowMappingEnd => .ok ([], parse.drop)
    | some .key => do
      let (key, parse) ←
        nodeUnless [.value, .flowEntry, .flowMappingEnd] false false fuel parse.drop
      let (value, parse) ← flowValue .flowMappingEnd fuel parse
      let (pairs, parse) ← flowMapping fuel false parse
      pure ((key, value) :: pairs, parse)
    | _ => do
      let (key, parse) ← node false false fuel parse
      let (pairs, parse) ← flowMapping fuel false parse
      pure ((key, .missing) :: pairs, parse)

end

def directives (hasVersion : Bool) (handles : List (Text × Option Text)) :
    List Token → Except Fault (List (Text × Option Text) × List Token)
  | .version major minor :: rest =>
    if hasVersion || major != 1 || (minor != 1 && minor != 2) then .error .directive
    else directives true handles rest
  | .tagDirective handle full :: rest =>
    if handles.any (·.1 == handle) then .error .directive
    else directives hasVersion ((handle, full) :: handles) rest
  | rest => .ok (handles, rest)

def defaultHandles : List (Text × Option Text) :=
  [("!".toList, some "!".toList), ("!!".toList, some "tag:yaml.org,2002:".toList)]

def rootAfterMark (parse : Parse) : Except Fault (Node × Parse) :=
  match parse.next? with
  | none | some .documentEnd | some .documentStart => .ok (.missing, parse)
  | some (.version ..) | some (.tagDirective ..) => .ok (.missing, parse)
  | _ => node true false (2 * parse.tokens.length + 2) parse

structure Document where
  root : Node
  anchored : List Anchored

def Document.meant (document : Document) : Node → Node
  | .alias number =>
    ((document.anchored.find? (·.number == number)).map Anchored.node).getD Node.missing
  | node => node

def documentOf (text : Text) : Except Fault (Option Document) := do
  let tokens ← tokensOf text
  let (handles, rest) ← directives false [] tokens
  let handles := handles ++ defaultHandles
  let (root, parse) ←
    match rest, rest.length == tokens.length with
    | [], true => return none
    | .documentStart :: rest, _ => rootAfterMark ⟨rest, [], [], handles⟩
    | _, true => node true false (2 * rest.length + 2) ⟨rest, [], [], handles⟩
    | _, false => throw .documents
  if parse.tokens.all (· == .documentEnd) then pure (some ⟨root, parse.anchored⟩)
  else throw .documents

end CourseLint.Yaml
