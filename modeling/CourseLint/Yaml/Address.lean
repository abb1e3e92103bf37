import CourseLint.Yaml.Place

set_option autoImplicit false

namespace CourseLint.Yaml

def octetCount? (octet : Nat) : Option Nat :=
  if octet < 0x80 then some 1
  else if octet / 0x20 = 0x6 then some 2
  else if octet / 0x10 = 0xE then some 3
  else if octet / 0x8 = 0x1E then some 4
  else none

def charOfOctets? (octets : List UInt8) : Option Char :=
  (String.fromUTF8? (ByteArray.mk octets.toArray)).bind (·.toList.head?)

def trailingOctets : Nat → Text → Except Fault (List Nat × Text)
  | 0, text => .ok ([], text)
  | count + 1, '%' :: a :: b :: rest =>
    match hexValue [a, b] with
    | some octet =>
      if octet / 0x40 = 0x2 then
        (trailingOctets count rest).map fun (octets, left) => (octet :: octets, left)
      else .error .tag
    | none => .error .tag
  | _ + 1, _ => .error .tag

def addressChars : Nat → Text → Except Fault (List (Option Char))
  | 0, _ => .ok []
  | _ + 1, [] => .ok []
  | fuel + 1, '%' :: a :: b :: rest =>
    match hexValue [a, b] with
    | none => .error .tag
    | some octet =>
      match octetCount? octet with
      | none => .error .tag
      | some count => do
        let (octets, left) ← trailingOctets (count - 1) rest
        let chars ← addressChars fuel left
        pure (charOfOctets? ((octet :: octets).map Nat.toUInt8) :: chars)
  | _ + 1, '%' :: _ => .error .tag
  | fuel + 1, c :: rest => (addressChars fuel rest).map (some c :: ·)

def unescapeAddress (text : Text) : Except Fault (Option Text) := do
  let chars ← addressChars text.length text
  pure ((chars.takeWhile (· != some '\x00')).mapM id)

end CourseLint.Yaml
