set_option autoImplicit false

namespace CourseLint

abbrev Text := List Char

instance : Coe String Text := ⟨String.toList⟩

namespace Text

def width : Text → Nat
  | [] => 0
  | c :: rest => c.utf8Size + width rest

@[simp] theorem width_nil : width [] = 0 := rfl

@[simp] theorem width_cons (c : Char) (rest : Text) : width (c :: rest) = c.utf8Size + width rest :=
  rfl

@[simp] theorem width_append (before after : Text) :
    width (before ++ after) = width before + width after := by
  induction before with
  | nil => simp
  | cons c rest ih => simp [ih, Nat.add_assoc]

theorem width_eq_zero_iff (text : Text) : width text = 0 ↔ text = [] := by
  cases text with
  | nil => simp
  | cons c rest =>
    have positive := c.utf8Size_pos
    simp only [width_cons, List.cons_ne_nil, iff_false]
    omega

def utf8 (text : Text) : List UInt8 := text.flatMap String.utf8EncodeChar

def splitAtByte? : Text → Nat → Option (Text × Text)
  | text, 0 => some ([], text)
  | [], _ + 1 => none
  | c :: rest, offset + 1 =>
    if c.utf8Size ≤ offset + 1 then
      (splitAtByte? rest (offset + 1 - c.utf8Size)).map fun cut => (c :: cut.1, cut.2)
    else none

theorem splitAtByte?_append (before after : Text) :
    splitAtByte? (before ++ after) (width before) = some (before, after) := by
  induction before with
  | nil => cases after <;> rfl
  | cons c rest ih =>
    have hc := c.utf8Size_pos
    obtain ⟨n, hn⟩ : ∃ n, c.utf8Size + width rest = n + 1 := ⟨c.utf8Size + width rest - 1, by omega⟩
    have hle : c.utf8Size ≤ n + 1 := by omega
    have hsub : n + 1 - c.utf8Size = width rest := by omega
    simp [hn, splitAtByte?, hle, hsub, ih]

theorem splitAtByte?_eq_some_iff (text : Text) (offset : Nat) (before after : Text) :
    splitAtByte? text offset = some (before, after) ↔
      text = before ++ after ∧ width before = offset := by
  constructor
  · intro h
    fun_induction splitAtByte? text offset generalizing before after with
    | case1 text => simp_all
    | case2 => simp at h
    | case3 c rest offset hle ih =>
      obtain ⟨⟨b, a⟩, hcut, heq⟩ := Option.map_eq_some_iff.mp h
      obtain ⟨rfl, rfl⟩ := Prod.mk.inj heq
      obtain ⟨rfl, hw⟩ := ih b a hcut
      exact ⟨rfl, by simp only [width_cons]; omega⟩
    | case4 => simp at h
  · rintro ⟨rfl, rfl⟩
    exact splitAtByte?_append before after

def slice? (text : Text) (start stop : Nat) : Option Text := do
  let (upToStop, _) ← splitAtByte? text stop
  let (_, covered) ← splitAtByte? upToStop start
  pure covered

theorem slice?_append (before covered after : Text) :
    slice? (before ++ covered ++ after) (width before) (width (before ++ covered)) =
      some covered := by
  rw [slice?, splitAtByte?_append (before ++ covered) after]
  simp [splitAtByte?_append before covered]

def splitOn (separator : Char) : Text → List Text
  | [] => [[]]
  | c :: rest =>
    if c = separator then [] :: splitOn separator rest
    else match splitOn separator rest with
      | [] => [[c]]
      | part :: parts => (c :: part) :: parts

def joinWith (separator : Text) (parts : List Text) : Text :=
  separator.intercalate parts

def ofNat (n : Nat) : Text := Nat.toDigits 10 n

def decimal (digits : Text) : Nat := digits.foldl (fun n c => 10 * n + (c.toNat - '0'.toNat)) 0

def inRanges (ranges : List (Nat × Nat)) (c : Char) : Bool :=
  ranges.any fun range => range.1 ≤ c.toNat && c.toNat ≤ range.2

def padRight (text : Text) (length : Nat) : Text :=
  text ++ List.replicate (length - text.length) ' '

def asciiLower (text : Text) : Text := text.map Char.toLower

def sameIgnoringAsciiCase (a b : Text) : Bool := asciiLower a == asciiLower b

end Text

end CourseLint
