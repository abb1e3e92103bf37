import Mathlib.Data.List.Find
import CourseLint.Proofs.Matching

set_option autoImplicit false

namespace CourseLint

open Text

structure Form (α : Type) where
  text : α → Text
  Behind : Text → Prop
  nonempty : ∀ piece, text piece ≠ []
  determined : ∀ {piece piece' : α} {after after' : Text}, Behind after → Behind after' →
    text piece ++ after = text piece' ++ after' → piece = piece'

structure Sighting (α : Type) where
  before : Text
  piece : α

namespace Form

variable {α : Type} (form : Form α)

def Stands (gap : Text) (piece : α) (after text : Text) : Prop :=
  text = gap ++ form.text piece ++ after ∧ form.Behind after

inductive Met : (before rest : Text) → List (Sighting α) → Prop where
  | none (before rest : Text) (free : ∀ gap piece after, ¬ form.Stands gap piece after rest) :
      Met before rest []
  | next (before rest gap after : Text) (piece : α) (later : List (Sighting α))
      (stands : form.Stands gap piece after rest)
      (first : ∀ gap' piece' after', form.Stands gap' piece' after' rest →
        gap.length ≤ gap'.length)
      (onward : Met (before ++ gap ++ form.text piece) after later) :
      Met before rest (⟨before ++ gap, piece⟩ :: later)

def MetOn (line : Text) (met : List (Sighting α)) : Prop := form.Met [] line met

def spanOf (lineIndex : Nat) (line : Text) (sighting : Sighting α) : Span :=
  ⟨lineIndex, line, width sighting.before,
    width (sighting.before ++ form.text sighting.piece)⟩

variable {form} {before rest : Text} {met met' : List (Sighting α)}

theorem Stands.same {gap gap' after after' : Text} {piece piece' : α}
    (stands : form.Stands gap piece after rest) (stands' : form.Stands gap' piece' after' rest)
    (level : gap.length = gap'.length) : gap = gap' ∧ piece = piece' ∧ after = after' := by
  have parts : gap ++ (form.text piece ++ after) = gap' ++ (form.text piece' ++ after') := by
    rw [← List.append_assoc, ← List.append_assoc, ← stands.1, ← stands'.1]
  obtain ⟨sameGap, behind⟩ := List.append_inj parts level
  have samePiece := form.determined stands.2 stands'.2 behind
  rw [samePiece] at behind
  exact ⟨sameGap, samePiece, List.append_cancel_left behind⟩

theorem Met.unique (isMet : form.Met before rest met) (isMet' : form.Met before rest met') :
    met = met' := by
  induction isMet generalizing met' with
  | none before rest free =>
    cases isMet' with
    | none => rfl
    | next _ _ gap after piece later stands => exact absurd stands (free gap piece after)
  | next before rest gap after piece later stands first onward ih =>
    cases isMet' with
    | none _ _ free => exact absurd stands (free gap piece after)
    | next _ _ gap' after' piece' later' stands' first' onward' =>
      have level := Nat.le_antisymm (first _ _ _ stands') (first' _ _ _ stands)
      obtain ⟨rfl, rfl, rfl⟩ := stands.same stands' level
      rw [ih onward']

theorem Met.iff_eq (isMet : form.Met before rest met) : form.Met before rest met' ↔ met' = met := by
  constructor
  · exact fun isMet' => isMet'.unique isMet
  · exact fun same => same ▸ isMet

theorem Met.exists_after (isMet : form.Met before rest met) {sighting : Sighting α}
    (member : sighting ∈ met) :
    ∃ after, before ++ rest = sighting.before ++ form.text sighting.piece ++ after := by
  induction isMet with
  | none => cases member
  | next before rest gap after piece later stands first onward ih =>
    have whole : before ++ rest = before ++ gap ++ form.text piece ++ after := by
      rw [stands.1]
      simp only [List.append_assoc]
    cases List.mem_cons.mp member with
    | inl isFirst =>
      rw [isFirst]
      exact ⟨after, whole⟩
    | inr isLater =>
      rw [whole]
      exact ih isLater

theorem Met.exists_cons {gap after : Text} {piece : α} (isMet : form.Met before rest met)
    (stands : form.Stands gap piece after rest)
    (first : ∀ {gap' : Text} {piece' : α} {after' : Text}, form.Stands gap' piece' after' rest →
      gap.length ≤ gap'.length) :
    ∃ later, met = ⟨before ++ gap, piece⟩ :: later := by
  cases isMet with
  | none _ _ free => exact absurd stands (free gap piece after)
  | next _ _ gap' after' piece' later stands' first' onward =>
    have level := Nat.le_antisymm (first stands') (first' gap piece after stands)
    obtain ⟨rfl, rfl, -⟩ := stands.same stands' level
    exact ⟨later, rfl⟩

theorem Met.passing {c : Char} (isMet : form.Met (before ++ [c]) rest met)
    (free : ∀ piece after, ¬ form.Stands [] piece after (c :: rest)) :
    form.Met before (c :: rest) met := by
  have later {gap after : Text} {piece : α} (stands : form.Stands gap piece after (c :: rest)) :
      ∃ gap', gap = c :: gap' ∧ form.Stands gap' piece after rest := by
    cases gap with
    | nil => exact absurd stands (free piece after)
    | cons d gap' =>
      obtain ⟨rfl, parts⟩ := List.cons.inj stands.1
      exact ⟨gap', rfl, parts, stands.2⟩
  cases isMet with
  | none _ _ freeBehind =>
    apply Met.none
    intro gap piece after stands
    obtain ⟨gap', -, stands'⟩ := later stands
    exact freeBehind gap' piece after stands'
  | next _ _ gap after piece others stands first onward =>
    have moved : before ++ [c] ++ gap = before ++ c :: gap := by simp
    rw [moved] at onward ⊢
    apply Met.next before (c :: rest) (c :: gap) after piece others
    case stands => exact ⟨congrArg (c :: ·) stands.1, stands.2⟩
    case onward => exact onward
    case first =>
      intro other piece' after' stands'
      obtain ⟨gap', rfl, standsBehind⟩ := later stands'
      exact Nat.succ_le_succ (first gap' piece' after' standsBehind)

end Form

namespace Pattern

theorem matchesFrom_of_resume_le (pattern : Pattern) {resume offset : Nat}
    (reached : resume ≤ offset) (rest : Text) :
    pattern.matchesFrom resume offset rest = pattern.matchesFrom 0 offset rest := by
  induction rest generalizing offset with
  | nil => simp [matchesFrom, Nat.not_lt.mpr reached]
  | cons c rest ih =>
    have onward := ih (Nat.le_add_right_of_le reached : resume ≤ offset + c.utf8Size)
    simp only [matchesFrom, Nat.not_lt.mpr reached, Nat.not_lt_zero, if_false, onward]

theorem matchesFrom_behind (pattern : Pattern) (before covered after : Text) :
    pattern.matchesFrom (width (before ++ covered)) (width before) (covered ++ after) =
      pattern.matchesFrom 0 (width (before ++ covered)) after := by
  induction covered generalizing before with
  | nil =>
    rw [List.append_nil, List.nil_append]
    exact pattern.matchesFrom_of_resume_le (Nat.le_refl _) after
  | cons c covered ih =>
    have positive := c.utf8Size_pos
    have inside : width before < width (before ++ c :: covered) := by
      simp only [width_append, width_cons]
      omega
    have next : width before + c.utf8Size = width (before ++ [c]) := by simp
    have moved : before ++ c :: covered = before ++ [c] ++ covered := by simp
    rw [List.cons_append, matchesFrom, if_pos inside, next, moved]
    exact ih (before ++ [c])

theorem matchAt_eq_none_iff {pattern : Pattern} {before rest : Text} :
    pattern.matchAt (width before) rest = none ↔
      ∀ covered after captures, rest = covered ++ after →
        ¬ pattern.Fits before covered after captures := by
  constructor
  · intro unmatched covered after captures split fits
    obtain ⟨found, matched⟩ := exists_matchAt_of_fits fits
    rw [← split, unmatched] at matched
    cases matched
  · intro misfits
    cases matched : pattern.matchAt (width before) rest with
    | none => rfl
    | some found =>
      obtain ⟨covered, after, captures, split, fits, -⟩ := exists_fit_of_matchAt matched
      exact absurd fits (misfits covered after captures split)

end Pattern

namespace Form

variable {α : Type}

def ReadBy (form : Form α) (pattern : Pattern) (groups : Sighting α → List Capture) : Prop :=
  ∀ before covered after captures, pattern.Fits before covered after captures ↔
    ∃ piece, covered = form.text piece ∧ form.Behind after ∧ captures = groups ⟨before, piece⟩

def matchOf (form : Form α) (groups : Sighting α → List Capture) (sighting : Sighting α) : Match :=
  ⟨width sighting.before, width (sighting.before ++ form.text sighting.piece), groups sighting⟩

namespace ReadBy

variable {form : Form α} {pattern : Pattern} {groups : Sighting α → List Capture}
  (readBy : form.ReadBy pattern groups)
include readBy

theorem matchAt_eq_none_iff {before rest : Text} :
    pattern.matchAt (width before) rest = none ↔
      ∀ piece after, ¬ form.Stands [] piece after rest := by
  rw [Pattern.matchAt_eq_none_iff]
  constructor
  · intro misfits piece after stands
    have fits := (readBy before _ after _).mpr ⟨piece, rfl, stands.2, rfl⟩
    exact misfits _ after _ stands.1 fits
  · intro free covered after captures split fits
    obtain ⟨piece, rfl, allowed, -⟩ := (readBy before covered after captures).mp fits
    exact free piece after ⟨split, allowed⟩

theorem exists_stands_of_matchAt {before rest : Text} {found : Match}
    (matched : pattern.matchAt (width before) rest = some found) :
    ∃ piece after, form.Stands [] piece after rest ∧
      found = form.matchOf groups ⟨before, piece⟩ := by
  obtain ⟨covered, after, captures, split, fits, rfl⟩ := Pattern.exists_fit_of_matchAt matched
  obtain ⟨piece, rfl, allowed, rfl⟩ := (readBy before covered after captures).mp fits
  exact ⟨piece, after, ⟨split, allowed⟩, rfl⟩

theorem exists_met_from (before rest : Text) :
    ∃ met, form.Met before rest met ∧
      pattern.matchesFrom 0 (width before) rest = met.map (form.matchOf groups) := by
  -- A match may be as long as the rest, so the induction is on how long that is.
  induction length : rest.length using Nat.strongRecOn generalizing before rest with
  | ind count ih =>
    cases rest with
    | nil =>
      have free (gap : Text) (piece : α) (after : Text) : ¬ form.Stands gap piece after [] := by
        intro stands
        have nothing := stands.1.symm
        simp [form.nonempty piece] at nothing
      have unmatched : pattern.matchAt (width before) [] = none :=
        readBy.matchAt_eq_none_iff.mpr (free [])
      exact ⟨[], .none before [] free, by simp [Pattern.matchesFrom, unmatched]⟩
    | cons c rest =>
      have next : width before + c.utf8Size = width (before ++ [c]) := by simp
      cases matched : pattern.matchAt (width before) (c :: rest) with
      | none =>
        have shorter : rest.length < count := by simp [← length]
        obtain ⟨met, isMet, found⟩ := ih _ shorter (before ++ [c]) rest rfl
        refine ⟨met, isMet.passing (readBy.matchAt_eq_none_iff.mp matched), ?_⟩
        rw [Pattern.matchesFrom, if_neg (Nat.not_lt_zero _), matched, next]
        exact found
      | some first =>
        obtain ⟨piece, after, stands, rfl⟩ := readBy.exists_stands_of_matchAt matched
        obtain ⟨d, covered, opens⟩ := List.exists_cons_of_ne_nil (form.nonempty piece)
        have whole : c :: rest = d :: (covered ++ after) := by
          rw [stands.1, List.nil_append, opens, List.cons_append]
        obtain ⟨rfl, rfl⟩ := List.cons.inj whole
        have shorter : after.length < count := by
          simp only [← length, List.length_cons, List.length_append]
          omega
        obtain ⟨met, isMet, found⟩ := ih _ shorter (before ++ form.text piece) after rfl
        refine ⟨⟨before, piece⟩ :: met, ?_, ?_⟩
        · have here := Form.Met.next before (c :: (covered ++ after)) [] after piece met stands
            (fun _ _ _ _ => Nat.zero_le _) (by simpa using isMet)
          rwa [List.append_nil] at here
        · have stop : width (before ++ form.text piece) = width (before ++ [c] ++ covered) := by
            rw [opens, List.append_assoc, List.singleton_append]
          rw [Pattern.matchesFrom, if_neg (Nat.not_lt_zero _), matched, next, List.map_cons,
            ← found]
          change _ :: pattern.matchesFrom (width (before ++ form.text piece)) _ _ = _
          rw [stop, pattern.matchesFrom_behind]

theorem exists_met (line : Text) :
    ∃ met, form.MetOn line met ∧
      ∀ lineIndex, pattern.occurrences lineIndex line =
        met.map fun sighting => ⟨lineIndex, line, form.matchOf groups sighting⟩ := by
  obtain ⟨met, isMet, found⟩ := readBy.exists_met_from [] line
  rw [width_nil] at found
  exact ⟨met, isMet, fun lineIndex => by simp [Pattern.occurrences, Pattern.matchesOf, found]⟩

variable {line : Text} {met : List (Sighting α)} (isMet : form.MetOn line met)
include isMet

theorem occurrences_eq (lineIndex : Nat) :
    pattern.occurrences lineIndex line =
      met.map fun sighting => ⟨lineIndex, line, form.matchOf groups sighting⟩ := by
  obtain ⟨met', isMet', found⟩ := readBy.exists_met line
  rw [isMet.unique isMet']
  exact found lineIndex

theorem occurrences_map_eq {β : Type} {lineIndex : Nat} {read : Occurrence → β} (value : α → β)
    (agree : ∀ sighting after, line = sighting.before ++ form.text sighting.piece ++ after →
      read ⟨lineIndex, line, form.matchOf groups sighting⟩ = value sighting.piece) :
    (pattern.occurrences lineIndex line).map
        (fun occurrence => (occurrence.span, read occurrence)) =
      met.map fun sighting => (form.spanOf lineIndex line sighting, value sighting.piece) := by
  rw [readBy.occurrences_eq isMet, List.map_map]
  apply List.map_congr_left
  intro sighting member
  obtain ⟨after, whole⟩ := isMet.exists_after member
  exact congrArg (Prod.mk _) (agree sighting after whole)

theorem firstOccurrencesWhere_eq {accepts : Occurrence → Bool} (wanted : α → Bool)
    (agree : ∀ sighting after, line = sighting.before ++ form.text sighting.piece ++ after →
      accepts ⟨0, line, form.matchOf groups sighting⟩ = wanted sighting.piece) :
    pattern.firstOccurrencesWhere accepts [line] =
      ((met.find? fun sighting => wanted sighting.piece).map fun sighting =>
        ⟨0, line, form.matchOf groups sighting⟩).toList := by
  have same : ∀ sighting ∈ met,
      accepts ⟨0, line, form.matchOf groups sighting⟩ = wanted sighting.piece := by
    intro sighting member
    obtain ⟨after, whole⟩ := isMet.exists_after member
    exact agree sighting after whole
  rw [Pattern.firstOccurrencesWhere_singleton, readBy.occurrences_eq isMet, List.find?_map]
  congr 2
  exact List.find?_congr same

end ReadBy

end Form

end CourseLint
