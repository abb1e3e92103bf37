import CourseLint.Proofs.Splicing
import Mathlib.Data.List.TakeWhile

set_option autoImplicit false

namespace CourseLint.Edit

open Text

def limitBehind (limit : Nat) (taken : List Edit) (offset : Nat) : Nat :=
  ((taken.map start).filter (offset < ·)).foldr min limit

def behindWinner (limit : Nat) (rivals : List Edit) : List Edit :=
  (rivals.dropWhile (limit < ·.stop)).tail

def winners (limit : Nat) (rivals : List Edit) : List Edit :=
  (rivals.find? (·.stop ≤ limit)).toList ++
    (behindWinner limit rivals).filter fun edit => edit.start = edit.stop

theorem winners_nil (limit : Nat) : winners limit [] = [] := rfl

theorem winners_cons_of_beyond {limit : Nat} {edit : Edit} (rivals : List Edit)
    (beyond : limit < edit.stop) : winners limit (edit :: rivals) = winners limit rivals := by
  have outside : ¬ edit.stop ≤ limit := Nat.not_le.mpr beyond
  simp [winners, behindWinner, beyond, outside]

theorem winners_cons_of_within {limit : Nat} {edit : Edit} (rivals : List Edit)
    (within : edit.stop ≤ limit) :
    winners limit (edit :: rivals) =
      edit :: rivals.filter fun other => other.start = other.stop := by
  have inside : ¬ limit < edit.stop := Nat.not_lt.mpr within
  simp [winners, behindWinner, within, inside]

theorem winners_eq_filter {limit : Nat} {rivals : List Edit}
    (here : ∀ edit ∈ rivals, edit.start = limit) (forward : ∀ edit ∈ rivals, edit.start ≤ edit.stop) :
    winners limit rivals = rivals.filter fun edit => edit.start = edit.stop := by
  induction rivals with
  | nil => rfl
  | cons edit rivals ih =>
    have isHere := here edit (by simp)
    have isForward := forward edit (by simp)
    have rest := ih (fun other member => here other (by simp [member]))
      (fun other member => forward other (by simp [member]))
    by_cases empty : edit.start = edit.stop
    · rw [winners_cons_of_within rivals (by omega)]
      simp [empty]
    · rw [winners_cons_of_beyond rivals (by omega), rest]
      simp [empty]

theorem limitBehind_of_le {limit offset : Nat} {taken : List Edit}
    (inFront : ∀ edit ∈ taken, edit.start ≤ offset) : limitBehind limit taken offset = limit := by
  have none : (taken.map start).filter (offset < ·) = [] := by
    apply List.filter_eq_nil_iff.mpr
    intro place member
    obtain ⟨edit, isTaken, same⟩ := List.mem_map.mp member
    have bound := inFront edit isTaken
    simp only [decide_eq_true_eq]
    omega
  rw [limitBehind, none, List.foldr_nil]

theorem foldr_min_of_le {limit limit' : Nat} (places : List Nat) (shorter : limit' ≤ limit) :
    min limit' (places.foldr min limit) = places.foldr min limit' := by
  induction places with
  | nil => exact Nat.min_eq_left shorter
  | cons place places ih => rw [List.foldr_cons, List.foldr_cons, ← ih, Nat.min_left_comm]

theorem limitBehind_cons_of_lt {limit offset : Nat} {edit : Edit} (taken : List Edit)
    (behind : offset < edit.start) (within : edit.start ≤ limit) :
    limitBehind limit (edit :: taken) offset = limitBehind edit.start taken offset := by
  simp only [limitBehind, List.map_cons, List.filter_cons, behind, decide_true, if_true,
    List.foldr_cons]
  exact foldr_min_of_le _ within

theorem limitBehind_cons_of_le {limit offset : Nat} {edit : Edit} (taken : List Edit)
    (inFront : edit.start ≤ offset) :
    limitBehind limit (edit :: taken) offset = limitBehind limit taken offset := by
  have notBehind : ¬ offset < edit.start := Nat.not_lt.mpr inFront
  simp [limitBehind, notBehind]

theorem startingAt_kept (limit offset : Nat) (edits : List Edit)
    (sorted : edits.Pairwise fun one other => other.start ≤ one.start)
    (forward : ∀ edit ∈ edits, edit.start ≤ edit.stop) :
    startingAt offset (kept limit edits) =
      winners (limitBehind limit (kept limit edits) offset) (startingAt offset edits) := by
  induction edits generalizing limit with
  | nil => rfl
  | cons edit edits ih =>
    obtain ⟨first, sortedRest⟩ := List.pairwise_cons.mp sorted
    have forwardRest : ∀ other ∈ edits, other.start ≤ other.stop :=
      fun other member => forward other (by simp [member])
    have isForward := forward edit (by simp)
    have keptFirst (limit' : Nat) : ∀ other ∈ kept limit' edits, other.start ≤ edit.start :=
      fun other member => first other ((kept_sublist limit' edits).subset member)
    by_cases beyond : limit < edit.stop
    · rw [kept, if_pos beyond, ih limit sortedRest forwardRest]
      by_cases here : edit.start = offset
      · have untouched : limitBehind limit (kept limit edits) offset = limit :=
          limitBehind_of_le (here ▸ keptFirst limit)
        rw [startingAt_cons_of_eq _ here, untouched, winners_cons_of_beyond _ beyond]
      · rw [startingAt_cons_of_ne _ here]
    · rw [kept, if_neg beyond]
      have within := Nat.not_lt.mp beyond
      have rest := ih edit.start sortedRest forwardRest
      rcases Nat.lt_trichotomy edit.start offset with before | here | behind
      · have none (others : List Edit) (inFront : ∀ other ∈ others, other.start ≤ edit.start) :
            startingAt offset (edit :: others) = [] := by
          rw [startingAt_cons_of_ne _ (Nat.ne_of_lt before)]
          apply startingAt_eq_nil
          exact fun other later => Nat.ne_of_lt (Nat.lt_of_le_of_lt (inFront other later) before)
        rw [none _ (keptFirst _), none _ first, winners_nil]
      · -- The first one takes the room up to the place itself.
        have inFront : ∀ other ∈ kept edit.start edits, other.start ≤ offset := here ▸ keptFirst _
        rw [limitBehind_of_le inFront] at rest
        have restHere : ∀ other ∈ startingAt offset edits, other.start = edit.start :=
          fun other member => by simpa [startingAt, here] using (List.mem_filter.mp member).2
        have empties := winners_eq_filter restHere
          (fun other member => forwardRest other (List.mem_filter.mp member).1)
        rw [limitBehind_cons_of_le _ (Nat.le_of_eq here), limitBehind_of_le inFront,
          startingAt_cons_of_eq _ here, startingAt_cons_of_eq _ here,
          winners_cons_of_within _ within, ← empties, ← rest]
      · have elsewhere : edit.start ≠ offset := Nat.ne_of_gt behind
        rw [limitBehind_cons_of_lt _ behind (by omega), startingAt_cons_of_ne _ elsewhere,
          startingAt_cons_of_ne _ elsewhere, rest]

theorem lastFirst_sameByStart (edits : List Edit) : SameByStart edits (lastFirst edits) := by
  obtain ⟨listed, isListed, same⟩ := exists_listed edits (List.Sublist.refl (lastFirst edits))
  have sameLength := (same.perm.trans (lastFirst_perm edits)).length_eq
  rwa [isListed.eq_of_length sameLength] at same

theorem length_winners_le_one_iff {limit : Nat} {rivals : List Edit}
    (forward : ∀ edit ∈ rivals, edit.start ≤ edit.stop) :
    (winners limit rivals).length ≤ 1 ↔
      ∀ edit ∈ behindWinner limit rivals, edit.start < edit.stop := by
  have isRival : behindWinner limit rivals ⊆ rivals :=
    ((List.tail_sublist _).trans (List.dropWhile_sublist _)).subset
  have nonempty_iff : ((behindWinner limit rivals).filter fun edit => edit.start = edit.stop) = [] ↔
      ∀ edit ∈ behindWinner limit rivals, edit.start < edit.stop := by
    rw [List.filter_eq_nil_iff]
    apply forall₂_congr
    intro edit member
    have isForward := forward edit (isRival member)
    simp only [decide_eq_true_eq]
    omega
  rw [← nonempty_iff, winners]
  cases found : rivals.find? (·.stop ≤ limit) with
  | none =>
    have dropped : rivals.dropWhile (limit < ·.stop) = [] :=
      List.dropWhile_eq_nil_iff.mpr (by simpa using found)
    simp [behindWinner, dropped]
  | some edit => simp

theorem winner_and_empty_edits_get_through (source : Text) (edits : List Edit)
    (usable : ∀ edit ∈ edits, edit.Usable source) :
    ∃ taken left, (taken ++ left).Perm edits ∧
      applyAll source edits = some ⟨splice source taken, taken.length, left.length⟩ ∧
      ∀ offset,
        startingAt offset taken =
          winners (limitBehind (width source) taken offset) (startingAt offset edits) ∧
        ((startingAt offset taken).length ≤ 1 ↔
          ∀ edit ∈ behindWinner (limitBehind (width source) taken offset)
            (startingAt offset edits), edit.start < edit.stop) := by
  have forward : ∀ edit ∈ edits, edit.start ≤ edit.stop := fun edit member => (usable edit member).1
  have parted := (kept_append_leftOut_perm (width source) (lastFirst edits)).trans
    (lastFirst_perm edits)
  refine ⟨applied source edits, _, parted, applyAll_of_usable usable, ?_⟩
  intro offset
  have forwardHere : ∀ edit ∈ startingAt offset edits, edit.start ≤ edit.stop :=
    fun edit member => forward edit (List.mem_of_mem_filter member)
  have through : startingAt offset (applied source edits) =
      winners (limitBehind (width source) (applied source edits) offset)
        (startingAt offset edits) := by
    rw [lastFirst_sameByStart edits offset]
    exact startingAt_kept _ offset _ (lastFirst_sorted edits)
      fun edit member => forward edit ((lastFirst_perm edits).subset member)
  refine ⟨through, ?_⟩
  rw [through]
  exact length_winners_le_one_iff forwardHere

def rivals : List Edit := [⟨1, 1, ['a']⟩, ⟨1, 2, ['b']⟩, ⟨1, 1, ['c']⟩, ⟨2, 9, ['d']⟩]

theorem winner_and_empty_edits_get_through_rivals :
    (∀ edit ∈ rivals, edit.Usable "xyz".toList) ∧
      ∃ taken left, (taken ++ left).Perm rivals ∧
        applyAll "xyz".toList rivals =
          some ⟨splice "xyz".toList taken, taken.length, left.length⟩ ∧
        applyAll "xyz".toList rivals = some ⟨"xcayz".toList, 2, 2⟩ ∧
        startingAt 1 taken =
          winners (limitBehind 3 taken 1) (startingAt 1 rivals) := by
  have usable : ∀ edit ∈ rivals, edit.Usable "xyz".toList := by decide
  obtain ⟨taken, left, parted, result, through⟩ :=
    winner_and_empty_edits_get_through "xyz".toList rivals usable
  exact ⟨usable, taken, left, parted, result, by decide, (through 1).1⟩

theorem empty_edit_joins_winner :
    (∀ edit ∈ [(⟨1, 1, ['x']⟩ : Edit), ⟨1, 1, ['y']⟩], edit.Usable "ab".toList) ∧
      applyAll "ab".toList [⟨1, 1, ['x']⟩, ⟨1, 1, ['y']⟩] = some ⟨"ayxb".toList, 2, 0⟩ ∧
      applyAll "ab".toList [⟨1, 2, ['x']⟩, ⟨1, 1, ['y']⟩] = some ⟨"ayx".toList, 2, 0⟩ := by
  decide

end CourseLint.Edit
