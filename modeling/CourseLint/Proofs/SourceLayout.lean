import CourseLint.Bibliography.Source
import CourseLint.Proofs.EntryHeadings
import Mathlib.Data.List.TakeWhile

set_option autoImplicit false

namespace CourseLint.Bibliography

open Text

def LeavesSuffix {α : Type} (text : Text) (result : Except Stop (α × Text)) : Prop :=
  ∀ read, result = .ok read → read.2 <:+ text

namespace LeavesSuffix

variable {α β : Type} {text whole : Text}

theorem error (stop : Stop) : LeavesSuffix (α := α) text (.error stop) := by
  intro read isRead
  cases isRead

theorem ok {value : α} {left : Text} (suffix : left <:+ text) :
    LeavesSuffix text (.ok (value, left)) := by
  rintro _ ⟨⟩
  exact suffix

theorem mono {result : Except Stop (α × Text)} (leaves : LeavesSuffix text result)
    (suffix : text <:+ whole) : LeavesSuffix whole result :=
  fun read isRead => (leaves read isRead).trans suffix

theorem map {result : Except Stop (α × Text)} (leaves : LeavesSuffix text result)
    {f : α × Text → β × Text} (same : ∀ read, (f read).2 = read.2) :
    LeavesSuffix text (result.map f) := by
  intro read isRead
  cases result with
  | error stop => cases isRead
  | ok first =>
    obtain rfl := Except.ok.inj isRead
    rw [same]
    exact leaves first rfl

theorem bind {result : Except Stop (α × Text)} (leaves : LeavesSuffix text result)
    {next : α × Text → Except Stop (β × Text)}
    (leavesThen : ∀ read, LeavesSuffix read.2 (next read)) :
    LeavesSuffix text (result >>= next) := by
  intro read isRead
  cases result with
  | error stop => cases isRead
  | ok first => exact (leavesThen first read isRead).trans (leaves first rfl)

end LeavesSuffix

theorem trimStart_suffix (text : Text) : trimStart text <:+ text :=
  List.dropWhile_suffix _

theorem identifier_leaves (text : Text) : LeavesSuffix text (identifier text) := by
  cases text with
  | nil => exact .error _
  | cons c rest =>
    rw [identifier]
    split
    · exact .ok ((List.dropWhile_suffix _).trans (List.suffix_cons c rest))
    · exact .error _

theorem braced_leaves (depth : Nat) (text : Text) : LeavesSuffix text (braced depth text) := by
  fun_induction braced depth text with
  | case1 | case2 => exact .error _
  | case3 depth c rest ih =>
    exact .map (ih.mono ((List.suffix_cons _ _).trans (List.suffix_cons _ _))) fun _ => rfl
  | case4 depth rest ih => exact .map (ih.mono (List.suffix_cons _ _)) fun _ => rfl
  | case5 rest => exact .ok (List.suffix_cons _ _)
  | case6 rest depth ih => exact .map (ih.mono (List.suffix_cons _ _)) fun _ => rfl
  | case7 depth c rest _ _ _ _ ih => exact .map (ih.mono (List.suffix_cons _ _)) fun _ => rfl

theorem quoted_leaves (text : Text) : LeavesSuffix text (quoted text) := by
  fun_induction quoted text with
  | case1 | case2 => exact .error _
  | case3 c rest ih =>
    exact .map (ih.mono ((List.suffix_cons _ _).trans (List.suffix_cons _ _))) fun _ => rfl
  | case4 rest => exact .ok (List.suffix_cons _ _)
  | case5 c rest _ _ _ ih => exact .map (ih.mono (List.suffix_cons _ _)) fun _ => rfl

theorem number_leaves (hasPoint : Bool) (text : Text) :
    LeavesSuffix text (number hasPoint text) := by
  fun_induction number hasPoint text with
  | case1 | case3 => exact .error _
  | case2 _ c rest _ ih | case4 _ c rest _ ih =>
    exact .map (ih.mono (List.suffix_cons _ _)) fun _ => rfl
  | case5 => exact .ok List.suffix_rfl

theorem part_leaves (text : Text) : LeavesSuffix text (part text) := by
  cases text with
  | nil => exact .error _
  | cons c rest =>
    rw [part]
    split
    · exact .map ((braced_leaves 0 rest).mono (List.suffix_cons _ _)) fun _ => rfl
    · split
      · exact .map ((quoted_leaves rest).mono (List.suffix_cons _ _)) fun _ => rfl
      · split
        · exact .map (number_leaves false _) fun _ => rfl
        · split
          · exact .map (identifier_leaves _) fun _ => rfl
          · exact .error _

theorem value_leaves (fuel : Nat) (text : Text) : LeavesSuffix text (value fuel text) := by
  induction fuel generalizing text with
  | zero => exact .error _
  | succ fuel ih =>
    refine .bind ((part_leaves _).mono (trimStart_suffix text)) fun read => ?_
    obtain ⟨first, left⟩ := read
    have trimmed := trimStart_suffix left
    dsimp only
    split
    · next rest isRest =>
      rw [isRest] at trimmed
      exact .map ((ih rest).mono ((List.suffix_cons _ _).trans trimmed)) fun _ => rfl
    · exact .ok trimmed

theorem field_leaves (text : Text) : LeavesSuffix text (field text) := by
  refine .bind (identifier_leaves text) fun read => ?_
  obtain ⟨name, left⟩ := read
  have trimmed := trimStart_suffix left
  dsimp only
  split
  · next rest isRest =>
    rw [isRest] at trimmed
    exact .map ((value_leaves _ rest).mono ((List.suffix_cons _ _).trans trimmed)) fun _ => rfl
  · exact .error _

theorem fields_leaves (fuel : Nat) (text : Text) : LeavesSuffix text (fields fuel text) := by
  induction fuel generalizing text with
  | zero => exact .error _
  | succ fuel ih =>
    have trimmed := trimStart_suffix text
    rw [fields]
    split
    · exact .error _
    · split
      · next rest isRest => exact .ok (isRest ▸ trimmed)
      · refine .bind ((field_leaves _).mono trimmed) fun read => ?_
        obtain ⟨first, left⟩ := read
        dsimp only
        split
        · next rest => exact .map ((ih rest).mono (List.suffix_cons _ _)) fun _ => rfl
        · exact .ok List.suffix_rfl
        · exact .error _

theorem body_leaves (kind text : Text) : LeavesSuffix text (body kind text) := by
  unfold body
  split
  · exact .map (fields_leaves _ text) fun _ => rfl
  · split
    · split
      · next rest => exact .map ((quoted_leaves rest).mono (List.suffix_cons _ _)) fun _ => rfl
      · exact .error _
    · split
      · exact .ok (List.dropWhile_suffix _)
      · have trimmed := (trimStart_suffix (text.dropWhile inKey)).trans (List.dropWhile_suffix _)
        split
        · next rest isRest =>
          rw [isRest] at trimmed
          have behind := (trimStart_suffix rest).trans ((List.suffix_cons _ _).trans trimmed)
          exact .map ((fields_leaves _ _).mono behind) fun _ => rfl
        · exact .error _

theorem item_leaves (text : Text) : LeavesSuffix text (item text) := by
  refine .bind (identifier_leaves text) fun read => ?_
  obtain ⟨kind, left⟩ := read
  have trimmed := trimStart_suffix left
  dsimp only
  split
  · exact .error _
  · next c rest isRest =>
    rw [isRest] at trimmed
    split
    · have inner := (trimStart_suffix rest).trans ((List.suffix_cons _ _).trans trimmed)
      refine .bind ((body_leaves _ _).mono inner) fun read => ?_
      obtain ⟨held, left⟩ := read
      have trimmed := trimStart_suffix left
      dsimp only
      split
      · exact .error _
      · next d after isAfter =>
        rw [isAfter] at trimmed
        split
        · exact .ok ((List.suffix_cons _ _).trans trimmed)
        · exact .error _
    · exact .error _

theorem ofKind_of_inIdentifier {c : Char} (clean : inIdentifier c = true) : ofKind c = true := by
  rw [inIdentifier] at clean
  simp_all [ofKind]

theorem ofKey_of_inKey {c : Char} (clean : inKey c = true) : ofKey c = true := by
  rw [inKey] at clean
  simp_all [ofKey]

theorem exists_blanks (text : Text) :
    ∃ gap, text = gap ++ trimStart text ∧ ∀ c ∈ gap, isBlankChar c = true :=
  ⟨text.takeWhile isBlankChar, List.takeWhile_append_dropWhile.symm,
    fun _ member => List.mem_takeWhile_imp member⟩

theorem identifier_eq {text name left : Text} (read : identifier text = .ok (name, left)) :
    text = name ++ left ∧ ∀ c ∈ name, inIdentifier c = true := by
  cases text with
  | nil => cases read
  | cons c rest =>
    rw [identifier] at read
    split at read
    · next starts =>
      obtain ⟨rfl, rfl⟩ := Prod.mk.inj (Except.ok.inj read)
      have here : inIdentifier c = true := (Bool.and_eq_true_iff.mp starts).1
      refine ⟨by simp, ?_⟩
      intro d member
      rcases List.mem_cons.mp member with rfl | later
      · exact here
      · exact List.mem_takeWhile_imp later
    · cases read

theorem map_eq_ok {α β : Type} {result : Except Stop α} {f : α → β} {value : β}
    (mapped : result.map f = .ok value) : ∃ first, result = .ok first ∧ f first = value := by
  cases result with
  | error stop => cases mapped
  | ok first => exact ⟨first, rfl, Except.ok.inj mapped⟩

theorem body_entry_eq {kind text key left : Text} {found : List Field}
    (read : body kind text = .ok (.entry key found, left)) :
    ∃ gap rest, text = key ++ gap ++ ',' :: rest ∧ (∀ c ∈ key, inKey c = true) ∧
      ∀ c ∈ gap, isBlankChar c = true := by
  unfold body at read
  split at read
  · obtain ⟨first, -, isFirst⟩ := map_eq_ok read
    cases isFirst
  · split at read
    · split at read
      · obtain ⟨first, -, isFirst⟩ := map_eq_ok read
        cases isFirst
      · cases read
    · split at read
      · cases read
      · split at read
        · next rest isRest =>
          obtain ⟨first, -, isFirst⟩ := map_eq_ok read
          obtain ⟨sameBody, -⟩ := Prod.mk.inj isFirst
          obtain ⟨rfl, -⟩ := Body.entry.inj sameBody
          obtain ⟨gap, parts, blank⟩ := exists_blanks (text.dropWhile inKey)
          rw [isRest] at parts
          refine ⟨gap, rest, ?_, fun _ member => List.mem_takeWhile_imp member, blank⟩
          rw [List.append_assoc, ← parts, List.takeWhile_append_dropWhile]
        · cases read

theorem bind_eq_ok {α β : Type} {result : Except Stop α} {next : α → Except Stop β} {value : β}
    (bound : (result >>= next) = .ok value) :
    ∃ first, result = .ok first ∧ next first = .ok value := by
  cases result with
  | error stop => cases bound
  | ok first => exact ⟨first, rfl, bound⟩

theorem item_entry_eq {text kind key left : Text} {found : List Field}
    (read : item text = .ok ((kind, .entry key found), left)) :
    ∃ kindGap delimiter keyGap commaGap rest,
      text = kind ++ kindGap ++ delimiter :: keyGap ++ key ++ commaGap ++ ',' :: rest ∧
      (∀ c ∈ kind, inIdentifier c = true) ∧ (∀ c ∈ key, inKey c = true) ∧
      (delimiter = '{' ∨ delimiter = '"') ∧ (∀ c ∈ kindGap, isBlankChar c = true) ∧
      (∀ c ∈ keyGap, isBlankChar c = true) ∧ ∀ c ∈ commaGap, isBlankChar c = true := by
  obtain ⟨⟨kind', behindKind⟩, readKind, readRest⟩ := bind_eq_ok read
  obtain ⟨rfl, kindClean⟩ := identifier_eq readKind
  obtain ⟨kindGap, kindParts, kindBlank⟩ := exists_blanks behindKind
  dsimp only at readRest
  split at readRest
  · cases readRest
  · next delimiter inner isInner =>
    rw [isInner] at kindParts
    split at readRest
    · next opens =>
      obtain ⟨⟨held, behindBody⟩, readBody, readEnd⟩ := bind_eq_ok readRest
      obtain ⟨keyGap, keyParts, keyBlank⟩ := exists_blanks inner
      dsimp only at readEnd
      split at readEnd
      · cases readEnd
      · split at readEnd
        · obtain ⟨sameItem, -⟩ := Prod.mk.inj (Except.ok.inj readEnd)
          obtain ⟨rfl, rfl⟩ := Prod.mk.inj sameItem
          obtain ⟨commaGap, rest, bodyParts, keyClean, commaBlank⟩ := body_entry_eq readBody
          rw [bodyParts] at keyParts
          refine ⟨kindGap, delimiter, keyGap, commaGap, rest, ?_, kindClean, keyClean, opens,
            kindBlank, keyBlank, commaBlank⟩
          rw [kindParts, keyParts]
          simp
        · cases readEnd
    · cases readRest

theorem exists_heading_of_items {total fuel : Nat} {front text : Text} {source : Source}
    (read : items total fuel text = .ok source) (measured : width (front ++ text) = total) :
    ∀ entry ∈ source.entries, ∃ heading, entry.HeadedBy (front ++ text) heading := by
  -- `front` is what has been read, so that a heading is one of the whole text.
  induction fuel generalizing front text source with
  | zero =>
    obtain rfl := Except.ok.inj read
    simp
  | succ fuel ih =>
    rw [items] at read
    split at read
    · obtain rfl := Except.ok.inj read
      simp
    · next c behind isBehind =>
      obtain ⟨⟨⟨kind, held⟩, left⟩, readItem, readRest⟩ := bind_eq_ok read
      obtain ⟨others, readOthers, isSource⟩ := bind_eq_ok readRest
      obtain rfl := Except.ok.inj isSource
      have stops := List.dropWhile_get_zero_not (· != '@') text (by simp [isBehind])
      obtain rfl : c = '@' := by simpa [isBehind] using stops
      obtain ⟨passed, rfl⟩ : ∃ passed, text = passed ++ '@' :: behind :=
        ⟨text.takeWhile (· != '@'), by rw [← isBehind, List.takeWhile_append_dropWhile]⟩
      obtain ⟨consumed, rfl⟩ := item_leaves behind _ readItem
      have whole : front ++ (passed ++ '@' :: (consumed ++ left)) =
          (front ++ passed ++ '@' :: consumed) ++ left := by simp
      have later (entry : Entry) (member : entry ∈ others.entries) :
          ∃ heading, entry.HeadedBy (front ++ (passed ++ '@' :: (consumed ++ left))) heading :=
        whole ▸ ih readOthers (whole ▸ measured) entry member
      cases held with
      | abbreviations | ignored => exact later
      | entry key found =>
        intro entry member
        rcases List.mem_cons.mp member with rfl | member
        · obtain ⟨kindGap, delimiter, keyGap, commaGap, rest, parts, kindClean, keyClean, opens,
            kindBlank, keyBlank, commaBlank⟩ := item_entry_eq readItem
          have start : width (front ++ passed) = total - width ('@' :: (consumed ++ left)) := by
            rw [← measured, ← List.append_assoc, width_append (front ++ passed)]
            exact (Nat.add_sub_cancel ..).symm
          exact ⟨⟨front ++ passed, kindGap, delimiter, keyGap, commaGap, rest⟩,
            by simp [parts], start, fun c member => ofKind_of_inIdentifier (kindClean c member),
            fun c member => ofKey_of_inKey (keyClean c member), opens, kindBlank, keyBlank,
            commaBlank⟩
        · exact later entry member

theorem exists_heading {text : Text} {source : Source} (read : Source.read text = .ok source) :
    ∀ entry ∈ source.entries, ∃ heading, entry.HeadedBy text heading := by
  rw [Source.read] at read
  split at read
  · next found isFound =>
    obtain rfl := Except.ok.inj read
    have fromStart : width ([] ++ text) = width text := rfl
    exact exists_heading_of_items isFound fromStart
  · cases read

theorem width_le_of_suffix {left text : Text} (suffix : left <:+ text) :
    width left ≤ width text := by
  obtain ⟨front, rfl⟩ := suffix
  rw [width_append]
  exact Nat.le_add_left _ _

theorem starts_of_items {total fuel : Nat} {text : Text} {source : Source}
    (read : items total fuel text = .ok source) (fits : width text ≤ total) :
    (∀ entry ∈ source.entries, total - width text ≤ entry.start) ∧
      source.entries.Pairwise fun first later => first.start < later.start := by
  -- What is still to be read starts at `total - width text`, and later entries start behind it.
  induction fuel generalizing text source with
  | zero =>
    cases read
    simp
  | succ fuel ih =>
    have passed : text.dropWhile (· != '@') <:+ text := List.dropWhile_suffix _
    rw [items] at read
    split at read
    · cases read
      simp
    · next c behind isBehind =>
      obtain ⟨⟨⟨kind, held⟩, left⟩, readItem, readRest⟩ := bind_eq_ok read
      obtain ⟨others, readOthers, isSource⟩ := bind_eq_ok readRest
      cases isSource
      rw [isBehind] at passed
      have here := width_le_of_suffix passed
      have shorter : width left ≤ width behind :=
        width_le_of_suffix (item_leaves behind _ readItem)
      have nonempty := c.utf8Size_pos
      rw [width_cons] at here
      have later := ih readOthers (by omega)
      have behindHere (entry : Entry) (member : entry ∈ others.entries) :
          total - width (c :: behind) < entry.start := by
        have atLeast := later.1 entry member
        rw [width_cons]
        omega
      have inside (entry : Entry) (member : entry ∈ others.entries) :
          total - width text ≤ entry.start := by
        have atLeast := later.1 entry member
        omega
      cases held with
      | abbreviations | ignored => exact ⟨inside, later.2⟩
      | entry key found =>
        constructor
        · intro entry member
          rcases List.mem_cons.mp member with rfl | member
          · change total - width text ≤ total - width (c :: behind)
            rw [width_cons]
            omega
          · exact inside entry member
        · exact List.pairwise_cons.mpr ⟨behindHere, later.2⟩

theorem pairwise_start {text : Text} {source : Source} (read : Source.read text = .ok source) :
    source.entries.Pairwise fun first later => first.start < later.start := by
  rw [Source.read] at read
  split at read
  · next found isFound =>
    cases read
    exact (starts_of_items isFound (Nat.le_refl _)).2
  · cases read

end CourseLint.Bibliography
