import CourseLint.Report.Json

set_option autoImplicit false

namespace CourseLint

open Text

inductive Json where
  | null
  | bool (value : Bool)
  | number (mantissa exponent : Int)
  | string (text : Text)
  | array (values : List Json)
  | object (members : List (Text × Json))

namespace Json

def isSpace (c : Char) : Bool := [' ', '\t', '\n', '\r'].contains c

def skipSpace (text : Text) : Text := text.dropWhile isSpace

def hexValue? (c : Char) : Option Nat :=
  if '0' ≤ c ∧ c ≤ '9' then some (c.toNat - '0'.toNat)
  else if 'a' ≤ c ∧ c ≤ 'f' then some (c.toNat - 'a'.toNat + 10)
  else if 'A' ≤ c ∧ c ≤ 'F' then some (c.toNat - 'A'.toNat + 10)
  else none

def codeUnit? (digits : Text) : Option Nat :=
  digits.foldlM (fun n c => (hexValue? c).map (16 * n + ·)) 0

def escaped? (c : Char) : Option Char :=
  if c = '"' ∨ c = '\\' ∨ c = '/' then some c
  else if c = 'b' then some '\x08'
  else if c = 'f' then some '\x0c'
  else if c = 'n' then some '\n'
  else if c = 'r' then some '\r'
  else if c = 't' then some '\t'
  else none

def units : Text → Option (List Nat × Text)
  | [] => none
  | c :: rest =>
    if c = '"' then some ([], rest)
    else if c = '\\' then
      match rest with
      | 'u' :: a :: b :: c :: d :: rest => do
        let unit ← codeUnit? [a, b, c, d]
        (units rest).map fun (later, left) => (unit :: later, left)
      | sign :: rest => do
        let sign ← escaped? sign
        (units rest).map fun (later, left) => (sign.toNat :: later, left)
      | [] => none
    else if c.toNat < 0x20 then none
    else (units rest).map fun (later, left) => (c.toNat :: later, left)

def isHighSurrogate (unit : Nat) : Bool := 0xD800 ≤ unit && unit < 0xDC00

def isLowSurrogate (unit : Nat) : Bool := 0xDC00 ≤ unit && unit < 0xE000

def ofUnits? : List Nat → Option Text
  | [] => some []
  | [unit] =>
    if isHighSurrogate unit || isLowSurrogate unit then none else some [Char.ofNat unit]
  | unit :: next :: rest =>
    if isHighSurrogate unit then
      if isLowSurrogate next then
        (ofUnits? rest).map
          (Char.ofNat (0x10000 + 0x400 * (unit - 0xD800) + (next - 0xDC00)) :: ·)
      else none
    else if isLowSurrogate unit then none
    else (ofUnits? (next :: rest)).map (Char.ofNat unit :: ·)

def stringBody (text : Text) : Option (Text × Text) := do
  let (found, left) ← units text
  (ofUnits? found).map (·, left)

def digitRun (text : Text) : Option (Text × Text) :=
  if (text.takeWhile Char.isDigit).isEmpty then none
  else some (text.takeWhile Char.isDigit, text.dropWhile Char.isDigit)

def fraction : Text → Option (Text × Text)
  | '.' :: rest => digitRun rest
  | text => some ([], text)

def signedExponent : Text → Option (Int × Text)
  | '-' :: rest => (digitRun rest).map fun (digits, left) => (-(decimal digits : Int), left)
  | '+' :: rest => (digitRun rest).map fun (digits, left) => ((decimal digits : Int), left)
  | text => (digitRun text).map fun (digits, left) => ((decimal digits : Int), left)

def exponent : Text → Option (Int × Text)
  | 'e' :: rest => signedExponent rest
  | 'E' :: rest => signedExponent rest
  | text => some (0, text)

def unsigned (text : Text) : Option ((Nat × Int) × Text) := do
  let (whole, left) ← digitRun text
  if whole.head? = some '0' ∧ whole.length ≠ 1 then none
  else
    let (parts, left) ← fraction left
    let (power, left) ← exponent left
    some ((decimal (whole ++ parts), power - parts.length), left)

def numeral : Text → Option (Json × Text)
  | '-' :: rest => (unsigned rest).map fun ((mantissa, power), left) =>
    (.number (-(mantissa : Int)) power, left)
  | text => (unsigned text).map fun ((mantissa, power), left) => (.number mantissa power, left)

def words : List (Text × Json) := [("true", .bool true), ("false", .bool false), ("null", .null)]

def wordOrNumeral (text : Text) : Option (Json × Text) :=
  match words.find? (·.1.isPrefixOf text) with
  | some (word, value) => some (value, text.drop word.length)
  | none => numeral text

mutual

def value : Nat → Text → Option (Json × Text)
  | 0, _ => none
  | fuel + 1, text =>
    match skipSpace text with
    | [] => none
    | c :: rest =>
      if c = '"' then (stringBody rest).map fun (text, left) => (.string text, left)
      else if c = '[' then
        if (skipSpace rest).head? = some ']' then some (.array [], (skipSpace rest).drop 1)
        else (elements fuel rest).map fun (values, left) => (.array values, left)
      else if c = '{' then
        if (skipSpace rest).head? = some '}' then some (.object [], (skipSpace rest).drop 1)
        else (members fuel rest).bind fun (found, left) =>
          if (found.map Prod.fst).Nodup then some (.object found, left) else none
      else wordOrNumeral (c :: rest)

def elements : Nat → Text → Option (List Json × Text)
  | 0, _ => none
  | fuel + 1, text => do
    let (first, left) ← value fuel text
    match skipSpace left with
    | ',' :: left => (elements fuel left).map fun (later, left) => (first :: later, left)
    | ']' :: left => some ([first], left)
    | _ => none

def members : Nat → Text → Option (List (Text × Json) × Text)
  | 0, _ => none
  | fuel + 1, text =>
    match skipSpace text with
    | '"' :: rest => do
      let (name, left) ← stringBody rest
      match skipSpace left with
      | ':' :: left => do
        let (first, left) ← value fuel left
        match skipSpace left with
        | ',' :: left => (members fuel left).map fun (later, left) => ((name, first) :: later, left)
        | '}' :: left => some ([(name, first)], left)
        | _ => none
      | _ => none
    | _ => none

end

def parse? (text : Text) : Option Json := do
  let (found, left) ← value (text.length + 1) text
  if (skipSpace left).isEmpty then some found else none

def Closed (text : Text) : Prop := ∀ c ∈ text.head?, c.isDigit = false ∧ c ∉ ['.', 'e', 'E']

structure Spells (text : Text) (json : Json) : Prop where
  no_feed : '\n' ∉ text
  value_append : ∀ fuel rest, text.length ≤ fuel → Closed rest →
    value fuel (text ++ rest) = some (json, rest)

theorem closed_nil : Closed [] := by simp [Closed]

theorem closed_cons {c : Char} (isSign : c ∈ [',', '}', ']']) (rest : Text) : Closed (c :: rest) := by
  simp only [List.mem_cons, List.not_mem_nil, or_false] at isSign
  rcases isSign with rfl | rfl | rfl <;> simp [Closed]

theorem skipSpace_cons {c : Char} (notSpace : isSpace c = false) (rest : Text) :
    skipSpace (c :: rest) = c :: rest := by
  rw [skipSpace, List.dropWhile_cons_of_neg (by simp [notSpace])]

theorem Spells.parse? {text : Text} {json : Json} (spells : Spells text json) :
    parse? text = some json := by
  have found := spells.value_append (text.length + 1) [] (Nat.le_succ _) closed_nil
  rw [List.append_nil] at found
  rw [Json.parse?, found]
  rfl

theorem codeUnit?_control :
    ∀ n < 0x20, codeUnit? ['0', '0', Report.hexDigit (n / 16), Report.hexDigit (n % 16)] = some n := by
  decide

theorem units_quotationMark (rest : Text) : units ('"' :: rest) = some ([], rest) := by
  rw [units.eq_def]
  rfl

theorem units_plain {c : Char} (notQuote : c ≠ '"') (notBackslash : c ≠ '\\')
    (notControl : ¬ c.toNat < 0x20) (rest : Text) :
    units (c :: rest) = (units rest).map fun (later, left) => (c.toNat :: later, left) := by
  rw [units.eq_def]
  simp only [notQuote, notBackslash, notControl, if_false]

theorem units_escapeChar (c : Char) (rest : Text) :
    units (Report.escapeChar c ++ rest) =
      (units rest).map fun (later, left) => (c.toNat :: later, left) := by
  unfold Report.escapeChar
  split
  next same => simp [units, escaped?, same]
  split
  next same => simp [units, escaped?, same]
  split
  next same => simp [units, escaped?, same]
  split
  next same => simp [units, escaped?, same]
  split
  next same => simp [units, escaped?, same]
  split
  next code => simp [units, escaped?, code]
  split
  next code => simp [units, escaped?, code]
  split
  next control => simp [units, codeUnit?_control c.toNat control]
  next notQuote notBackslash _ _ _ _ _ notControl =>
    exact units_plain notQuote notBackslash notControl rest

theorem units_escaped (text rest : Text) :
    units (text.flatMap Report.escapeChar ++ '"' :: rest) = some (text.map Char.toNat, rest) := by
  induction text with
  | nil => exact units_quotationMark rest
  | cons c text ih =>
    rw [List.flatMap_cons, List.append_assoc, units_escapeChar, ih]
    rfl

theorem not_surrogate (c : Char) :
    isHighSurrogate c.toNat = false ∧ isLowSurrogate c.toNat = false := by
  have valid : c.toNat < 0xD800 ∨ 0xDFFF < c.toNat ∧ c.toNat < 0x110000 := c.valid
  simp only [isHighSurrogate, isLowSurrogate, Bool.and_eq_false_iff, decide_eq_false_iff_not]
  omega

theorem ofUnits?_characters (text : Text) : ofUnits? (text.map Char.toNat) = some text := by
  induction text with
  | nil => rfl
  | cons c text ih =>
    have single := not_surrogate c
    cases text with
    | nil => simp [ofUnits?, single]
    | cons d text =>
      rw [List.map_cons, List.map_cons, ofUnits?, ← List.map_cons, ih]
      simp [single]

theorem stringBody_escaped (text rest : Text) :
    stringBody (text.flatMap Report.escapeChar ++ '"' :: rest) = some (text, rest) := by
  simp [stringBody, units_escaped, ofUnits?_characters]

theorem no_feed_escapeChar (c : Char) : '\n' ∉ Report.escapeChar c := by
  by_cases control : c.toNat < 0x20
  · have small : ∀ n < 0x20, '\n' ∉ Report.escapeChar (Char.ofNat n) := by decide
    simpa using small c.toNat control
  · have notFeed : '\n' ≠ c := by
      intro feed
      exact control (feed ▸ by decide)
    simp only [Report.escapeChar, control, if_false]
    repeat' split
    all_goals simp [notFeed]

section Strings

variable [Report.Writer] [Report.LawfulWriter]

theorem jsonString_eq (text : Text) :
    Report.jsonString text = '"' :: text.flatMap Report.escapeChar ++ ['"'] := by
  rw [Report.jsonString, funext Report.LawfulWriter.escape_eq]

theorem no_feed_jsonString (text : Text) : '\n' ∉ Report.jsonString text := by
  simp [jsonString_eq, no_feed_escapeChar]

theorem spells_string (text : Text) : Spells (Report.jsonString text) (.string text) := by
  constructor
  case no_feed => exact no_feed_jsonString text
  case value_append =>
    intro fuel rest enough closed
    cases fuel with
    | zero => simp [jsonString_eq] at enough
    | succ fuel =>
      have body := stringBody_escaped text rest
      simp [jsonString_eq, value, skipSpace_cons (c := '"') rfl, body]

end Strings

theorem head?_ofNat {n : Nat} (zero : (ofNat n).head? = some '0') : n = 0 := by
  induction n using Nat.strongRecOn with
  | ind n ih =>
    rw [ofNat, Nat.toDigits_eq_if (by decide)] at zero
    split at zero
    · next small =>
      have digits : ∀ m < 10, Nat.digitChar m = '0' → m = 0 := by decide
      exact digits n small (by simpa using zero)
    · next large =>
      cases digits : Nat.toDigits 10 (n / 10) with
      | nil => exact absurd digits Nat.toDigits_ne_nil
      | cons first later =>
        rw [digits] at zero
        have shorter := ih (n / 10) (by omega) (by rw [ofNat, digits]; exact zero)
        omega

theorem digit_of_mem_ofNat {n : Nat} {c : Char} (member : c ∈ ofNat n) : c.isDigit = true :=
  Nat.isDigit_of_mem_toDigits (by decide) (by decide) member

theorem decimal_ofNat (n : Nat) : decimal (ofNat n) = n :=
  Nat.ofDigitChars_toDigits (by decide) (by decide)

theorem digitRun_append {digits rest : Text} (nonempty : digits ≠ [])
    (all : ∀ c ∈ digits, c.isDigit = true) (closed : Closed rest) :
    digitRun (digits ++ rest) = some (digits, rest) := by
  have none_after : rest.takeWhile Char.isDigit = [] := by
    cases rest with
    | nil => rfl
    | cons c rest => exact List.takeWhile_cons_of_neg (by simp [(closed c rfl).1])
  have taken : (digits ++ rest).takeWhile Char.isDigit = digits := by
    rw [List.takeWhile_append_of_pos all, none_after, List.append_nil]
  have dropped : (digits ++ rest).dropWhile Char.isDigit = rest := by
    have parts := List.takeWhile_append_dropWhile (p := Char.isDigit) (l := digits ++ rest)
    rw [taken] at parts
    exact List.append_cancel_left parts
  simp [digitRun, taken, dropped, nonempty]

theorem unsigned_ofNat (n : Nat) {rest : Text} (closed : Closed rest) :
    unsigned (ofNat n ++ rest) = some ((n, 0), rest) := by
  have run : digitRun (ofNat n ++ rest) = some (ofNat n, rest) :=
    digitRun_append Nat.toDigits_ne_nil (fun _ => digit_of_mem_ofNat) closed
  have noZero : ¬ ((ofNat n).head? = some '0' ∧ (ofNat n).length ≠ 1) := by
    intro leading
    obtain rfl := head?_ofNat leading.1
    exact leading.2 rfl
  have noFraction : fraction rest = some ([], rest) := by
    unfold fraction
    split
    · simp [Closed] at closed
    · rfl
  have noExponent : exponent rest = some (0, rest) := by
    unfold exponent
    split
    · simp [Closed] at closed
    · simp [Closed] at closed
    · rfl
  simp [unsigned, run, noZero, noFraction, noExponent, decimal_ofNat]

theorem ne_of_isDigit {c d : Char} (isDigit : c.isDigit = true) (noDigit : d.isDigit = false) :
    c ≠ d := by
  intro same
  simp [same, noDigit] at isDigit

theorem wordOrNumeral_digit {c : Char} (isDigit : c.isDigit = true) (rest : Text) :
    wordOrNumeral (c :: rest) =
      (unsigned (c :: rest)).map fun ((mantissa, power), left) => (.number mantissa power, left) := by
  have noWord : words.find? (·.1.isPrefixOf (c :: rest)) = none := by
    rw [List.find?_eq_none]
    intro word member
    have letter : ∃ first later, word.1 = first :: later ∧ first.isDigit = false := by
      simp only [words, List.mem_cons, List.not_mem_nil, or_false] at member
      rcases member with rfl | rfl | rfl
      · exact ⟨'t', "rue", rfl, rfl⟩
      · exact ⟨'f', "alse", rfl, rfl⟩
      · exact ⟨'n', "ull", rfl, rfl⟩
    obtain ⟨first, later, isWord, noDigit⟩ := letter
    simp [isWord, Ne.symm (ne_of_isDigit isDigit noDigit)]
  rw [wordOrNumeral, noWord]
  change numeral (c :: rest) = _
  unfold numeral
  split
  · next sign => exact absurd (List.cons.inj sign).1 (ne_of_isDigit isDigit rfl)
  · rfl

theorem spells_natural (n : Nat) : Spells (ofNat n) (.number n 0) := by
  constructor
  case no_feed =>
    intro feed
    exact absurd (digit_of_mem_ofNat feed) (by decide)
  case value_append =>
    intro fuel rest enough closed
    have whole := unsigned_ofNat n closed
    cases digits : ofNat n with
    | nil => exact absurd digits Nat.toDigits_ne_nil
    | cons c later =>
      rw [digits] at enough whole
      cases fuel with
      | zero => simp at enough
      | succ fuel =>
        have isDigit : c.isDigit = true := digit_of_mem_ofNat (digits ▸ List.mem_cons_self)
        have differs (d : Char) (noDigit : d.isDigit = false) : c ≠ d :=
          ne_of_isDigit isDigit noDigit
        have notSpace : isSpace c = false := by simp [isSpace, differs]
        have scalar : value (fuel + 1) (c :: later ++ rest) = wordOrNumeral (c :: later ++ rest) := by
          simp [value, skipSpace_cons notSpace, differs]
        rw [scalar, List.cons_append, wordOrNumeral_digit isDigit, ← List.cons_append, whole]
        rfl

structure Member where
  name : Text
  text : Text
  json : Json

section Members

variable [Report.Writer]

def Member.written (member : Member) : Text := Report.jsonMember member.name member.text

def Member.read (member : Member) : Text × Json := (member.name, member.json)

def joined (members : List Member) : Text := joinWith [','] (members.map Member.written)

theorem joined_singleton (member : Member) : joined [member] = member.written := by
  simp [joined, joinWith, List.intercalate]

theorem joined_cons_cons (member next : Member) (others : List Member) :
    joined (member :: next :: others) = member.written ++ ',' :: joined (next :: others) := by
  simp [joined, joinWith, List.intercalate]

variable {member : Member} {others : List Member} {fuel : Nat} {tail : Text}

theorem members_written [Report.LawfulWriter] (spells : Spells member.text member.json)
    (enough : member.text.length ≤ fuel) (closed : Closed tail) :
    members (fuel + 1) (member.written ++ tail) =
      match skipSpace tail with
      | ',' :: left => (members fuel left).map fun (later, left) => (member.read :: later, left)
      | '}' :: left => some ([member.read], left)
      | _ => none := by
  have name := stringBody_escaped member.name (':' :: (member.text ++ tail))
  have found := spells.value_append fuel tail enough closed
  simp [Member.written, Report.jsonMember, jsonString_eq, members,
    skipSpace_cons (c := '"') rfl, skipSpace_cons (c := ':') rfl, name, found, Member.read]

theorem length_text_lt_written (member : Member) : member.text.length < member.written.length := by
  simp only [Member.written, Report.jsonMember, List.length_append, List.length_cons]
  omega

theorem members_joined [Report.LawfulWriter] (spelled : ∀ other ∈ member :: others, Spells other.text other.json)
    (enough : (joined (member :: others)).length ≤ fuel) (rest : Text) :
    members fuel (joined (member :: others) ++ '}' :: rest) =
      some ((member :: others).map Member.read, rest) := by
  have longer := length_text_lt_written member
  have first : Spells member.text member.json := spelled member List.mem_cons_self
  induction others generalizing member fuel with
  | nil =>
    rw [joined_singleton] at enough ⊢
    cases fuel with
    | zero => omega
    | succ fuel =>
      rw [members_written first (by omega) (closed_cons (by simp) rest), skipSpace_cons rfl]
      rfl
  | cons next others ih =>
    have later (other : Member) (isLater : other ∈ next :: others) : Spells other.text other.json :=
      spelled other (List.mem_cons_of_mem _ isLater)
    rw [joined_cons_cons] at enough ⊢
    rw [List.length_append, List.length_cons] at enough
    rw [List.append_assoc, List.cons_append]
    cases fuel with
    | zero => omega
    | succ fuel =>
      have enoughLater : (joined (next :: others)).length ≤ fuel := by omega
      have read := ih later enoughLater (length_text_lt_written next)
        (later next List.mem_cons_self)
      rw [members_written first (by omega) (closed_cons (by simp) _), skipSpace_cons rfl]
      change (members fuel _).map _ = _
      rw [read]
      rfl

theorem no_feed_joined [Report.LawfulWriter] (spelled : ∀ other ∈ member :: others, Spells other.text other.json) :
    '\n' ∉ joined (member :: others) := by
  have clean : '\n' ∉ member.written := by
    have text := (spelled member List.mem_cons_self).no_feed
    simp [Member.written, Report.jsonMember, no_feed_jsonString, text]
  induction others generalizing member with
  | nil => rwa [joined_singleton]
  | cons next others ih =>
    have later (other : Member) (isLater : other ∈ next :: others) : Spells other.text other.json :=
      spelled other (List.mem_cons_of_mem _ isLater)
    have text := (later next List.mem_cons_self).no_feed
    have rest := ih later (by simp [Member.written, Report.jsonMember, no_feed_jsonString, text])
    rw [joined_cons_cons]
    simp [clean, rest]

theorem joined_opens [Report.LawfulWriter] (member : Member) (others : List Member) (rest : Text) :
    (skipSpace (joined (member :: others) ++ rest)).head? = some '"' := by
  cases others with
  | nil =>
    rw [joined_singleton]
    rfl
  | cons next others =>
    rw [joined_cons_cons]
    rfl

theorem spells_object [Report.LawfulWriter] {member : Member} {others : List Member}
    (spelled : ∀ other ∈ member :: others, Spells other.text other.json)
    (differ : ((member :: others).map Member.name).Nodup) :
    Spells ('{' :: joined (member :: others) ++ ['}'])
      (.object ((member :: others).map Member.read)) := by
  constructor
  case no_feed => simp [no_feed_joined spelled]
  case value_append =>
    intro fuel rest enough closed
    rw [List.length_append, List.length_cons] at enough
    cases fuel with
    | zero => omega
    | succ fuel =>
      have enoughInside : (joined (member :: others)).length ≤ fuel := by omega
      have found := members_joined spelled enoughInside rest
      have opens := joined_opens member others ('}' :: rest)
      have names : (((member :: others).map Member.read).map Prod.fst).Nodup := by
        rw [List.map_map]
        exact differ
      rw [List.append_assoc, List.cons_append, value, skipSpace_cons rfl]
      simp only [List.singleton_append, opens, found, Option.bind_some, names]
      rfl

end Members

theorem value_closing {text left : Text} (closing : skipSpace text = ']' :: left) (fuel : Nat) :
    value fuel text = none := by
  cases fuel with
  | zero => rw [value]
  | succ fuel =>
    rw [value, closing]
    simp [wordOrNumeral, words, numeral, unsigned, digitRun]

theorem spells_array {text : Text} {json : Json} (spells : Spells text json) :
    Spells ('[' :: text ++ [']']) (.array [json]) := by
  constructor
  case no_feed => simp [spells.no_feed]
  case value_append =>
    intro fuel rest enough closed
    rw [List.length_append, List.length_cons, List.length_singleton] at enough
    cases fuel with
    | zero => omega
    | succ fuel =>
      cases fuel with
      | zero => omega
      | succ fuel =>
        have found := spells.value_append fuel (']' :: rest) (by omega) (closed_cons (by simp) rest)
        have nonempty : (skipSpace (text ++ ']' :: rest)).head? ≠ some ']' := by
          intro closing
          rw [List.head?_eq_some_iff] at closing
          cases closing with
          | intro left closing => simp [value_closing closing] at found
        have one : elements (fuel + 1) (text ++ ']' :: rest) = some ([json], rest) := by
          rw [elements]
          simp [found, skipSpace_cons (c := ']') rfl]
        rw [List.append_assoc, List.cons_append, value, skipSpace_cons rfl]
        simp [nonempty, one]

end Json

end CourseLint
