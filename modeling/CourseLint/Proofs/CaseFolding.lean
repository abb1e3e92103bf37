import CourseLint.Proofs.PatternParts

set_option autoImplicit false

namespace CourseLint

namespace Text

namespace Casing

def foldRuns : List Run := [
  ⟨0xB5, 0xB5, 1, 775⟩, ⟨0x17F, 0x17F, 1, -268⟩, ⟨0x345, 0x345, 1, 116⟩, ⟨0x3C2, 0x3C2, 1, 1⟩,
  ⟨0x3D0, 0x3D0, 1, -30⟩, ⟨0x3D1, 0x3D1, 1, -25⟩, ⟨0x3D5, 0x3D5, 1, -15⟩,
  ⟨0x3D6, 0x3D6, 1, -22⟩, ⟨0x3F0, 0x3F0, 1, -54⟩, ⟨0x3F1, 0x3F1, 1, -48⟩,
  ⟨0x3F5, 0x3F5, 1, -64⟩, ⟨0x13A0, 0x13F5, 1, 0⟩, ⟨0x13F8, 0x13FD, 1, -8⟩,
  ⟨0x1C80, 0x1C80, 1, -6222⟩, ⟨0x1C81, 0x1C81, 1, -6221⟩, ⟨0x1C82, 0x1C82, 1, -6212⟩,
  ⟨0x1C83, 0x1C84, 1, -6210⟩, ⟨0x1C85, 0x1C85, 1, -6211⟩, ⟨0x1C86, 0x1C86, 1, -6204⟩,
  ⟨0x1C87, 0x1C87, 1, -6180⟩, ⟨0x1C88, 0x1C88, 1, 35267⟩, ⟨0x1E9B, 0x1E9B, 1, -58⟩,
  ⟨0x1FBE, 0x1FBE, 1, -7173⟩, ⟨0x1FD3, 0x1FD3, 1, -7235⟩, ⟨0x1FE3, 0x1FE3, 1, -7219⟩,
  ⟨0xAB70, 0xABBF, 1, -38864⟩, ⟨0xFB05, 0xFB05, 1, 1⟩]

def foldChar (c : Char) : Char :=
  match (foldRuns ++ lowerRuns).findSome? (·.lower? c.toNat) with
  | some n => Char.ofNat n
  | none => c

def letters : Text := "abcdefghijklmnopqrstuvwxyz"

theorem toNat_of_mem_letters {letter : Char} (isLetter : letter ∈ letters) :
    0 < letter.toNat ∧ letter.toNat < 0x80 := by
  have ascii : letters.all (fun c => 0 < c.toNat ∧ c.toNat < 0x80) = true := by decide
  exact of_decide_eq_true (List.all_eq_true.mp ascii letter isLetter)

theorem toNat_lt_of_toLower {c letter : Char} (isLetter : letter ∈ letters)
    (lowered : c.toLower = letter) : c.toNat < 0x80 := by
  have ascii := toNat_of_mem_letters isLetter
  delta Char.toLower at lowered
  split at lowered
  · next upper =>
    have last : c.toNat ≤ 90 := UInt32.le_iff_toNat_le.mp upper.2
    omega
  · rw [lowered]
    exact ascii.2

theorem findSome?_lower?_eq_none {runs : List Run} {n : Nat}
    (above : ∀ run ∈ runs, n < run.first) :
    runs.findSome? (·.lower? n) = none := by
  rw [List.findSome?_eq_none_iff]
  intro run member
  have first := above run member
  simp [Run.lower?, Nat.not_le.mpr first]

theorem foldChar_ascii {c : Char} (ascii : c.toNat < 0x80) : foldChar c = c.toLower := by
  have above : ∀ run ∈ foldRuns ++ lowerRuns.tail, 0x80 ≤ run.first := by decide +kernel
  have noneBefore : foldRuns.findSome? (·.lower? c.toNat) = none :=
    findSome?_lower?_eq_none fun run member =>
      Nat.lt_of_lt_of_le ascii (above run (List.mem_append_left _ member))
  have noneBehind : lowerRuns.tail.findSome? (·.lower? c.toNat) = none :=
    findSome?_lower?_eq_none fun run member =>
      Nat.lt_of_lt_of_le ascii (above run (List.mem_append_right _ member))
  have capitals : lowerRuns = ⟨0x41, 0x5A, 1, 32⟩ :: lowerRuns.tail := rfl
  have small : ∀ n < 0x80, (Char.ofNat n).toLower =
      match Run.lower? ⟨0x41, 0x5A, 1, 32⟩ n with
      | some lowered => Char.ofNat lowered
      | none => Char.ofNat n := by
    decide +kernel
  have lowered := small c.toNat ascii
  rw [Char.ofNat_toNat] at lowered
  rw [lowered, foldChar, List.findSome?_append, noneBefore, capitals, List.findSome?_cons,
    noneBehind]
  cases Run.lower? ⟨0x41, 0x5A, 1, 32⟩ c.toNat <;> rfl

theorem foldChar_beyond_ascii {c letter : Char} (isLetter : letter ∈ letters)
    (beyond : 0x80 ≤ c.toNat) (folded : foldChar c = letter) : c = '\u017F' ∨ c = '\u212A' := by
  have table : ∀ run ∈ foldRuns ++ lowerRuns, run.last < 0x80 ∨
      run.first = 0x17F ∧ run.last = 0x17F ∨ run.first = 0x212A ∧ run.last = 0x212A ∨
      0x80 ≤ (run.first : Int) + run.shift := by
    decide +kernel
  have ascii := toNat_of_mem_letters isLetter
  unfold foldChar at folded
  split at folded
  · next n found =>
    obtain ⟨run, member, first, last, rfl⟩ := exists_run_of_lower? found
    rw [← folded] at ascii
    have value := toNat_ofNat_cases (c.toNat + run.shift).toNat
    rcases table run member with inAscii | longS | kelvin | shifted
    · omega
    · have code : c.toNat = 0x17F := by omega
      exact .inl (Char.toNat_inj.mp code)
    · have code : c.toNat = 0x212A := by omega
      exact .inr (Char.toNat_inj.mp code)
    · omega
  · rw [folded] at beyond
    omega

def caseForms : Text :=
  letters ++ "ABCDEFGHIJKLMNOPQRSTUVWXYZ" ++ ['\u017F', '\u212A']

theorem mem_caseForms {c : Char} (folded : foldChar c ∈ letters) : c ∈ caseForms := by
  by_cases ascii : c.toNat < 0x80
  · have small : ∀ n < 0x80, (Char.ofNat n).toLower ∈ letters → Char.ofNat n ∈ caseForms := by
      decide +kernel
    rw [foldChar_ascii ascii] at folded
    simpa using small c.toNat ascii (by simpa using folded)
  · have special := foldChar_beyond_ascii folded (Nat.le_of_not_lt ascii) rfl
    rcases special with rfl | rfl <;> decide

theorem foldChar_eq_iff {letter : Char} (isLetter : letter ∈ letters) (c : Char) :
    foldChar c = letter ↔ Pattern.foldsTo letter c = true := by
  have lowerCase : letters.all (fun letter => letter.toLower == letter) = true := by decide
  have sameLetter := eq_of_beq (List.all_eq_true.mp lowerCase letter isLetter)
  have longS : foldChar '\u017F' = 's' := by decide +kernel
  have kelvin : foldChar '\u212A' = 'k' := by decide +kernel
  simp only [Pattern.foldsTo, sameLetter, Bool.or_eq_true, Bool.and_eq_true,
    beq_iff_eq]
  constructor
  · intro folded
    by_cases ascii : c.toNat < 0x80
    · rw [foldChar_ascii ascii] at folded
      exact .inl (.inl folded)
    · have special := foldChar_beyond_ascii isLetter (Nat.le_of_not_lt ascii) folded
      rcases special with rfl | rfl
      · exact .inr ⟨folded.symm.trans longS, rfl⟩
      · exact .inl (.inr ⟨folded.symm.trans kelvin, rfl⟩)
  · intro reads
    rcases reads with (lowered | isKelvin) | isLongS
    · rw [foldChar_ascii (toNat_lt_of_toLower isLetter lowered), lowered]
    · rw [isKelvin.1, isKelvin.2, kelvin]
    · rw [isLongS.1, isLongS.2, longS]

end Casing

def foldCase (text : Text) : Text := text.map Casing.foldChar

end Text

open Text

theorem not_blank_of_mem_caseForms {c : Char} (form : c ∈ Casing.caseForms) :
    isBlankChar c = false := by
  have noBlank : Casing.caseForms.all (fun c => !isBlankChar c) = true := by decide
  simpa using List.all_eq_true.mp noBlank c form

theorem mem_caseForms_of_foldCase {word text : Text}
    (lowerCase : word.all Casing.letters.contains = true) (folded : foldCase text = word) :
    ∀ c ∈ text, c ∈ Casing.caseForms := by
  intro c member
  have inWord : Casing.foldChar c ∈ word := by
    rw [← folded]
    exact List.mem_map_of_mem member
  apply Casing.mem_caseForms
  exact List.contains_iff_mem.mp (List.all_eq_true.mp lowerCase _ inWord)

theorem readsAs_iff {word text : Text} (lowerCase : word.all Casing.letters.contains = true) :
    ReadsAs word text ↔ foldCase text = word := by
  induction word generalizing text with
  | nil => simp [ReadsAs, foldCase]
  | cons letter word ih =>
    rw [List.all_cons, Bool.and_eq_true, List.contains_iff_mem] at lowerCase
    have first := Casing.foldChar_eq_iff lowerCase.1
    have later (text : Text) := @ih text lowerCase.2
    cases text with
    | nil => simp [ReadsAs, foldCase]
    | cons c text =>
      simp only [ReadsAs, foldCase] at later
      simp [ReadsAs, foldCase, first, later]

end CourseLint
