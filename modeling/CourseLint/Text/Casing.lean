import CourseLint.Text.CasingTable
import CourseLint.Text.Basic

set_option autoImplicit false

namespace CourseLint.Text

namespace Casing

def Run.lower? (run : Run) (n : Nat) : Option Nat :=
  if run.first ≤ n ∧ n ≤ run.last ∧ (n - run.first) % run.step = 0 then
    some (n + run.shift).toNat
  else none

def lowerChar (c : Char) : Char :=
  if c.toNat < 0x80 then c.toLower
  else match lowerRuns.findSome? (·.lower? c.toNat) with
    | some n => Char.ofNat n
    | none => c

def isCased (c : Char) : Bool := inRanges casedRanges c

def isIgnorable (c : Char) : Bool := inRanges ignorableRanges c

def reachesCased : Text → Bool
  | [] => false
  | c :: rest => if isIgnorable c then reachesCased rest else isCased c

def lowerAfter (before : Text) : Text → Text
  | [] => []
  | c :: rest =>
    let here : Text :=
      if c = 'Σ' then [if reachesCased before && !reachesCased rest then 'ς' else 'σ']
      else if c = 'İ' then ['i', '\u0307']
      else [lowerChar c]
    here ++ lowerAfter (c :: before) rest

end Casing

def lower (text : Text) : Text := Casing.lowerAfter [] text

end CourseLint.Text
