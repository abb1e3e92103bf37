import CourseLint.Text.Basic

set_option autoImplicit false

namespace CourseLint.Text

def isBlankChar (c : Char) : Bool :=
  (9 ≤ c.toNat && c.toNat ≤ 13) || c.toNat == 0x20 || c.toNat == 0x85 || c.toNat == 0xA0 ||
    c.toNat == 0x1680 || (0x2000 ≤ c.toNat && c.toNat ≤ 0x200A) || c.toNat == 0x2028 ||
    c.toNat == 0x2029 || c.toNat == 0x202F || c.toNat == 0x205F || c.toNat == 0x3000

def trimStart (text : Text) : Text := text.dropWhile isBlankChar

def trimEnd (text : Text) : Text := (text.reverse.dropWhile isBlankChar).reverse

def trim (text : Text) : Text := trimEnd (trimStart text)

def isBlank (text : Text) : Bool := text.all isBlankChar

end CourseLint.Text
