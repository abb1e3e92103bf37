import CourseLint.Text.Basic

set_option autoImplicit false

namespace CourseLint.Report

def hexDigit (n : Nat) : Char := (Nat.digitChar n)

def escapeChar (c : Char) : Text :=
  if c = '"' then ['\\', '"']
  else if c = '\\' then ['\\', '\\']
  else if c = '\n' then ['\\', 'n']
  else if c = '\r' then ['\\', 'r']
  else if c = '\t' then ['\\', 't']
  else if c.toNat = 8 then ['\\', 'b']
  else if c.toNat = 12 then ['\\', 'f']
  else if c.toNat < 0x20 then
    ['\\', 'u', '0', '0', hexDigit (c.toNat / 16), hexDigit (c.toNat % 16)]
  else [c]

inductive Style where
  | orange
  | red
  | bold
  | dim
deriving DecidableEq, Repr

def escapeSequence (parameters : Text) : Text := '\x1b' :: '[' :: parameters ++ ['m']

def Style.parameters : Style → Text
  | .orange => "38;5;208"
  | .red => "31"
  | .bold => "1"
  | .dim => "2"

def painted (styles : List Style) (text : Text) : Text :=
  styles.flatMap (escapeSequence ·.parameters) ++ text ++ escapeSequence ['0']

/-- The libraries that write JSON strings and terminal styles. -/
class Writer where
  escape : Char → Text
  paint : List Style → Text → Text

/-- What the documentation of these libraries says: the escapes of a JSON string, and a style as
its codes, the text and a reset. -/
class LawfulWriter [Writer] : Prop where
  escape_eq : ∀ c, Writer.escape c = escapeChar c
  paint_eq : ∀ styles text, styles ≠ [] → Writer.paint styles text = painted styles text

instance : Writer := ⟨escapeChar, painted⟩

instance : LawfulWriter := ⟨fun _ => rfl, fun _ _ _ => rfl⟩

end CourseLint.Report
