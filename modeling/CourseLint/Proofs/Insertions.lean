import Mathlib.Data.List.Induction
import CourseLint.Proofs.Splicing

set_option autoImplicit false

namespace CourseLint.Edit

open Text

def Grows (source : Text) (edit insertion : Edit) : Prop :=
  ∃ front left right behind text, source = front ++ left ++ right ++ behind ∧
    edit = ⟨width front, width (front ++ left ++ right), left ++ text ++ right⟩ ∧
    insertion = ⟨width (front ++ left), width (front ++ left), text⟩

section Grows

variable {source : Text}

theorem Grows.place {edit insertion : Edit} (grows : edit.Grows source insertion) :
    insertion.start = insertion.stop ∧ edit.start ≤ insertion.start := by
  obtain ⟨front, left, right, behind, text, -, rfl, rfl⟩ := grows
  simp

theorem Grows.stop_le {edit insertion : Edit} (grows : edit.Grows source insertion) :
    edit.stop ≤ width source := by
  obtain ⟨front, left, right, behind, text, rfl, rfl, -⟩ := grows
  simp

theorem spliceFrom_snoc_from (edits : List Edit) (edit : Edit) (offset : Nat)
    (between replaced rest : Text) (starts : edit.start = offset + width between)
    (stops : edit.stop = edit.start + width replaced)
    (later : ∀ other ∈ edits, edit.stop ≤ other.start) :
    spliceFrom (edits ++ [edit]) offset (between ++ (replaced ++ rest)) =
      between ++ (edit.text ++ spliceFrom edits edit.stop rest) := by
  have behind : ∀ other ∈ edits ++ [edit], offset + width between ≤ other.start := by
    intro other member
    rcases List.mem_append.mp member with isLater | isEdit
    · have beyond := later other isLater
      omega
    · exact Nat.le_of_eq (by rw [List.mem_singleton.mp isEdit, starts])
  rw [spliceFrom_before _ _ between _ behind, ← starts,
    spliceFrom_snoc edits edit replaced rest stops.symm later]

theorem spliceFrom_snoc_grows {edits insertions : List Edit} {edit insertion : Edit}
    {before after : Text} (grows : edit.Grows source insertion) (whole : source = before ++ after)
    (reached : width before ≤ edit.start) (later : ∀ other ∈ edits, edit.stop ≤ other.start)
    (later' : ∀ other ∈ insertions, edit.stop ≤ other.start)
    (same : ∀ before after, source = before ++ after → width before = edit.stop →
      spliceFrom edits (width before) after = spliceFrom insertions (width before) after) :
    spliceFrom (edits ++ [edit]) (width before) after =
      spliceFrom (insertions ++ [insertion]) (width before) after := by
  obtain ⟨front, left, right, behind, text, parts, rfl, rfl⟩ := grows
  have sameBehind := same _ behind parts rfl
  have isFront : front <+: source := ⟨left ++ right ++ behind, by simp [parts]⟩
  obtain ⟨between, rfl⟩ := prefix_of_width_le ⟨after, whole.symm⟩ isFront reached
  obtain rfl : after = between ++ (left ++ (right ++ behind)) := by simpa [parts] using whole.symm
  have reaches : width (before ++ between ++ left) + width right =
      width (before ++ between ++ left ++ right) := (width_append _ _).symm
  have covered := spliceFrom_snoc_from edits
    ⟨width (before ++ between), width (before ++ between ++ left ++ right), left ++ text ++ right⟩
    (width before) between (left ++ right) behind (width_append _ _) (by simp [Nat.add_assoc]) later
  have put := spliceFrom_snoc_from insertions
    ⟨width (before ++ between ++ left), width (before ++ between ++ left), text⟩
    (width before) (between ++ left) [] (right ++ behind) (by simp) rfl
    fun other member => Nat.le_trans (by simp) (later' other member)
  have onward := spliceFrom_before insertions (width (before ++ between ++ left)) right behind
    (by rwa [reaches])
  dsimp only at covered put
  rw [onward, reaches, ← sameBehind] at put
  simp only [List.append_assoc, List.nil_append] at covered put ⊢
  rw [covered, put]

theorem splice_eq_of_grows {edits : List Edit} {place : Edit → Edit}
    (grows : ∀ edit ∈ edits, edit.Grows source (place edit))
    (ordered : edits.Pairwise fun one other => other.stop ≤ one.start) :
    splice source edits = splice source (edits.map place) := by
  have fromHere : ∀ before after, source = before ++ after →
      (∀ edit ∈ edits, width before ≤ edit.start) →
      spliceFrom edits (width before) after =
        spliceFrom (edits.map place) (width before) after := by
    -- From the last edit in the text to the first: an edit reaches those behind it nowhere.
    induction edits using List.reverseRecOn with
    | nil => exact fun _ _ _ _ => rfl
    | append_singleton edits edit ih =>
      intro before after whole reached
      obtain ⟨ordered, -, later⟩ := List.pairwise_append.mp ordered
      have growsHere := grows edit (by simp)
      have growsLater : ∀ other ∈ edits, other.Grows source (place other) :=
        fun other member => grows other (by simp [member])
      have behind : ∀ other ∈ edits, edit.stop ≤ other.start :=
        fun other member => later other member edit (by simp)
      rw [List.map_append, List.map_singleton]
      refine spliceFrom_snoc_grows growsHere whole (reached edit (by simp)) behind ?_ ?_
      · intro other member
        obtain ⟨original, inList, rfl⟩ := List.mem_map.mp member
        exact Nat.le_trans (behind original inList) (growsLater original inList).place.2
      · intro before after whole atStop
        exact ih growsLater ordered before after whole fun other member => by
          simpa [atStop] using behind other member
  exact fromHere [] source rfl fun _ _ => Nat.zero_le _

end Grows

def woven (insertions : List Edit) (offset : Nat) : Text → Text
  | [] => []
  | c :: rest => insertedAt insertions offset ++ c :: woven insertions (offset + c.utf8Size) rest

def wovenParts (insertions : List Edit) (offset : Nat) : List Text → List Text
  | [] => []
  | part :: parts =>
    woven insertions offset part :: wovenParts insertions (offset + width part) parts

section Woven

variable {insertions : List Edit}

theorem woven_append (offset : Nat) (text rest : Text) :
    woven insertions offset (text ++ rest) =
      woven insertions offset text ++ woven insertions (offset + width text) rest := by
  induction text generalizing offset with
  | nil => rfl
  | cons c text ih => simp [woven, ih, Nat.add_assoc]

theorem flatten_wovenParts (offset : Nat) (parts : List Text) :
    (wovenParts insertions offset parts).flatten = woven insertions offset parts.flatten := by
  induction parts generalizing offset with
  | nil => rfl
  | cons part parts ih => rw [wovenParts, List.flatten_cons, ih, List.flatten_cons, woven_append]

theorem length_wovenParts (offset : Nat) (parts : List Text) :
    (wovenParts insertions offset parts).length = parts.length := by
  induction parts generalizing offset with
  | nil => rfl
  | cons part parts ih => rw [wovenParts, List.length_cons, ih, List.length_cons]

theorem getElem?_wovenParts (offset : Nat) (before after : List Text) (part : Text) :
    (wovenParts insertions offset (before ++ part :: after))[before.length]? =
      some (woven insertions (offset + width before.flatten) part) := by
  induction before generalizing offset with
  | nil => rfl
  | cons first before ih => simp [wovenParts, ih, Nat.add_assoc]

theorem woven_eq_self (offset : Nat) (text : Text)
    (outside : ∀ insertion ∈ insertions,
      insertion.start < offset ∨ offset + width text ≤ insertion.start) :
    woven insertions offset text = text := by
  induction text generalizing offset with
  | nil => rfl
  | cons c text ih =>
    have wide := c.utf8Size_pos
    rw [width_cons] at outside
    have nothing : insertedAt insertions offset = [] := by
      refine insertedAt_eq_nil_of_ne fun insertion member => ?_
      have away := outside insertion member
      omega
    have onward := ih (offset + c.utf8Size) fun insertion member => by
      have away := outside insertion member
      omega
    rw [woven, nothing, onward, List.nil_append]

theorem suffix_woven (offset : Nat) (text : Text)
    (outside : ∀ insertion ∈ insertions,
      insertion.start ≤ offset ∨ offset + width text ≤ insertion.start) :
    text <:+ woven insertions offset text := by
  cases text with
  | nil => exact List.nil_suffix
  | cons c rest =>
    have wide := c.utf8Size_pos
    rw [width_cons] at outside
    have behind : woven insertions (offset + c.utf8Size) rest = rest :=
      woven_eq_self _ _ fun insertion member => by
        have away := outside insertion member
        omega
    rw [woven, behind]
    exact List.suffix_append _ _

variable (places : ∀ insertion ∈ insertions, insertion.start = insertion.stop)
include places

theorem spliceFrom_append (offset : Nat) (text rest : Text) :
    spliceFrom insertions offset (text ++ rest) =
      woven insertions offset text ++ spliceFrom insertions (offset + width text) rest := by
  induction text generalizing offset with
  | nil => rfl
  | cons c text ih =>
    have kept : covers insertions offset = false := by
      refine List.any_eq_false.mpr fun insertion member => ?_
      have place := places insertion member
      simp only [Bool.and_eq_true, decide_eq_true_eq, not_and]
      omega
    simp [spliceFrom, woven, kept, ih, Nat.add_assoc]

theorem spliceFrom_behind (offset : Nat) (text : Text)
    (past : ∀ insertion ∈ insertions, insertion.start ≤ offset) :
    spliceFrom insertions offset text = insertedAt insertions offset ++ text := by
  cases text with
  | nil => simp [spliceFrom]
  | cons c rest =>
    have wide := c.utf8Size_pos
    have untouched : woven insertions (offset + c.utf8Size) rest = rest :=
      woven_eq_self _ _ fun insertion member => .inl (by
        have before := past insertion member
        omega)
    have nothing : insertedAt insertions (offset + width (c :: rest)) = [] := by
      refine insertedAt_eq_nil_of_ne fun insertion member => ?_
      have before := past insertion member
      rw [width_cons]
      omega
    have whole := spliceFrom_append places offset (c :: rest) []
    rwa [spliceFrom, nothing, woven, untouched, List.append_nil, List.append_nil] at whole

theorem splice_line (above line below : Text)
    (onLine : ∀ insertion ∈ insertions,
      width above ≤ insertion.start ∧ insertion.start ≤ width (above ++ line)) :
    splice (above ++ line ++ below) insertions =
      above ++ (woven insertions (width above) line ++
        insertedAt insertions (width (above ++ line))) ++ below := by
  have upToLine := spliceFrom_before insertions 0 above (line ++ below) (by
    simpa using fun insertion member => (onLine insertion member).1)
  have past := spliceFrom_behind places (width (above ++ line)) below
    fun insertion member => (onLine insertion member).2
  rw [width_append] at past ⊢
  rw [splice, List.append_assoc, upToLine, Nat.zero_add, spliceFrom_append places, past]
  simp

end Woven

end CourseLint.Edit
