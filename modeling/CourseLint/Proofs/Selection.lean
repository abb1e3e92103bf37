import Mathlib.Data.List.Nodup
import Mathlib.Data.List.Pairwise
import CourseLint.Proofs.Application

set_option autoImplicit false

namespace CourseLint.Edit

def leftOut (limit : Nat) : List Edit → List Edit
  | [] => []
  | edit :: edits =>
    if limit < edit.stop then edit :: leftOut limit edits else leftOut edit.start edits

theorem kept_append_leftOut_perm (limit : Nat) (edits : List Edit) :
    (kept limit edits ++ leftOut limit edits).Perm edits := by
  induction edits generalizing limit with
  | nil => exact .refl _
  | cons edit edits ih =>
    by_cases beyond : limit < edit.stop
    · simp only [kept, leftOut, if_pos beyond]
      exact List.perm_middle.trans ((ih limit).cons edit)
    · simp only [kept, leftOut, if_neg beyond]
      exact (ih edit.start).cons edit

def Disjoint (one other : Edit) : Prop := one.stop ≤ other.start ∨ other.stop ≤ one.start

theorem Disjoint.symm {one other : Edit} (disjoint : one.Disjoint other) : other.Disjoint one :=
  Or.symm disjoint

instance : Std.Symm Disjoint := ⟨fun _ _ => Disjoint.symm⟩

theorem stop_le_of_mem_kept (limit : Nat) (edits : List Edit)
    (forward : ∀ edit ∈ edits, edit.start ≤ edit.stop) :
    ∀ edit ∈ kept limit edits, edit.stop ≤ limit := by
  induction edits generalizing limit with
  | nil => simp [kept]
  | cons first edits ih =>
    have rest : ∀ edit ∈ edits, edit.start ≤ edit.stop :=
      fun edit member => forward edit (by simp [member])
    by_cases beyond : limit < first.stop
    · simpa only [kept, if_pos beyond] using ih limit rest
    · intro edit member
      rw [kept, if_neg beyond] at member
      rcases List.mem_cons.mp member with rfl | later
      · exact Nat.not_lt.mp beyond
      · have below := ih first.start rest edit later
        have inOrder := forward first (by simp)
        omega

theorem kept_ordered (limit : Nat) (edits : List Edit)
    (forward : ∀ edit ∈ edits, edit.start ≤ edit.stop) :
    (kept limit edits).Pairwise fun one other => other.stop ≤ one.start := by
  induction edits generalizing limit with
  | nil => exact .nil
  | cons first edits ih =>
    have rest : ∀ edit ∈ edits, edit.start ≤ edit.stop :=
      fun edit member => forward edit (by simp [member])
    by_cases beyond : limit < first.stop
    · simpa only [kept, if_pos beyond] using ih limit rest
    · rw [kept, if_neg beyond]
      exact List.pairwise_cons.mpr ⟨stop_le_of_mem_kept first.start edits rest, ih first.start rest⟩

theorem kept_disjoint (limit : Nat) (edits : List Edit)
    (forward : ∀ edit ∈ edits, edit.start ≤ edit.stop) :
    (kept limit edits).Pairwise Disjoint :=
  (kept_ordered limit edits forward).imp Or.inr

theorem leftOut_blocked (limit : Nat) (edits : List Edit)
    (sorted : edits.Pairwise fun one other => other.start ≤ one.start) :
    ∀ edit ∈ leftOut limit edits, limit < edit.stop ∨
      ∃ other ∈ kept limit edits, edit.start ≤ other.start ∧ other.start < edit.stop := by
  induction edits generalizing limit with
  | nil => simp [leftOut]
  | cons first edits ih =>
    obtain ⟨behind, sorted⟩ := List.pairwise_cons.mp sorted
    intro edit member
    by_cases beyond : limit < first.stop
    · simp only [kept, leftOut, if_pos beyond] at member ⊢
      rcases List.mem_cons.mp member with rfl | later
      · exact .inl beyond
      · exact ih limit sorted edit later
    · simp only [kept, leftOut, if_neg beyond] at member ⊢
      -- The limit of the later edits is the start of the first.
      rcases ih first.start sorted edit member with across | ⟨other, isKept, blocked⟩
      · have tried : edit ∈ edits :=
          (kept_append_leftOut_perm first.start edits).subset (List.mem_append_right _ member)
        exact .inr ⟨first, by simp, behind edit tried, across⟩
      · exact .inr ⟨other, by simp [isKept], blocked⟩

section Applied

variable {source : Text} {edits : List Edit}

theorem mem_applied_or_blocked {edit : Edit} (member : edit ∈ edits)
    (within : edit.stop ≤ Text.width source) :
    edit ∈ applied source edits ∨
      ∃ other ∈ applied source edits, edit.start ≤ other.start ∧ other.start < edit.stop := by
  have parted := kept_append_leftOut_perm (Text.width source) (lastFirst edits)
  have tried := parted.symm.subset ((lastFirst_perm edits).symm.subset member)
  rcases List.mem_append.mp tried with taken | left
  · exact .inl taken
  · rcases leftOut_blocked _ _ (lastFirst_sorted edits) edit left with beyond | blocked
    · omega
    · exact .inr blocked

variable (forward : ∀ edit ∈ edits, edit.start ≤ edit.stop)
include forward

theorem applied_ordered :
    (applied source edits).Pairwise fun one other => other.stop ≤ one.start :=
  kept_ordered _ _ fun edit member => forward edit ((lastFirst_perm edits).subset member)

theorem disjoint_of_mem_applied {one other : Edit} (taken : one ∈ applied source edits)
    (taken' : other ∈ applied source edits) (distinct : one ≠ other) : one.Disjoint other :=
  have disjoint : (applied source edits).Pairwise Disjoint := (applied_ordered forward).imp Or.inr
  disjoint.forall taken taken' distinct

end Applied

def startingAt (offset : Nat) (edits : List Edit) : List Edit := edits.filter (·.start == offset)

theorem startingAt_eq_nil {offset : Nat} {edits : List Edit}
    (elsewhere : ∀ edit ∈ edits, edit.start ≠ offset) : startingAt offset edits = [] :=
  List.filter_eq_nil_iff.mpr fun edit member => by simpa using elsewhere edit member

theorem startingAt_cons_of_eq {offset : Nat} {edit : Edit} (edits : List Edit)
    (here : edit.start = offset) : startingAt offset (edit :: edits) = edit :: startingAt offset edits :=
  List.filter_cons_of_pos (by simpa using here)

theorem startingAt_cons_of_ne {offset : Nat} {edit : Edit} (edits : List Edit)
    (elsewhere : edit.start ≠ offset) : startingAt offset (edit :: edits) = startingAt offset edits :=
  List.filter_cons_of_neg (by simpa using elsewhere)

def SameByStart (edits edits' : List Edit) : Prop :=
  ∀ offset, startingAt offset edits = startingAt offset edits'

theorem SameByStart.cons {edits edits' : List Edit} (edit : Edit)
    (same : SameByStart edits edits') : SameByStart (edit :: edits) (edit :: edits') := by
  intro offset
  by_cases here : edit.start = offset
  · rw [startingAt_cons_of_eq _ here, startingAt_cons_of_eq _ here, same offset]
  · rw [startingAt_cons_of_ne _ here, startingAt_cons_of_ne _ here, same offset]

theorem SameByStart.trans {first second third : List Edit} (one : SameByStart first second)
    (other : SameByStart second third) : SameByStart first third :=
  fun offset => (one offset).trans (other offset)

theorem SameByStart.swap {one other : Edit} (edits : List Edit)
    (distinct : one.start ≠ other.start) :
    SameByStart (one :: other :: edits) (other :: one :: edits) := by
  intro offset
  by_cases here : one.start = offset
  · have elsewhere : other.start ≠ offset := by omega
    simp [startingAt, here, elsewhere]
  · simp [startingAt, List.filter_cons, here]

theorem SameByStart.perm {edits edits' : List Edit} (same : SameByStart edits edits') :
    edits.Perm edits' := by
  refine List.perm_iff_count.mpr fun edit => ?_
  have among := congrArg (List.count edit) (same edit.start)
  rwa [startingAt, startingAt, List.count_filter (by simp), List.count_filter (by simp)] at among

theorem exists_listed_of_insertByStart (edit : Edit) (edits : List Edit) {chosen : List Edit}
    (isChosen : chosen.Sublist (insertByStart edit edits)) :
    ∃ listed, listed.Sublist (edit :: edits) ∧ SameByStart listed chosen := by
  induction edits generalizing chosen with
  | nil => exact ⟨chosen, isChosen, fun _ => rfl⟩
  | cons other others ih =>
    rw [insertByStart] at isChosen
    split at isChosen
    · exact ⟨chosen, isChosen, fun _ => rfl⟩
    · next before =>
      have distinct : other.start ≠ edit.start := by omega
      cases isChosen with
      | cons _ later =>
        obtain ⟨listed, isListed, same⟩ := ih later
        exact ⟨listed, isListed.trans ((List.sublist_cons_self other others).cons_cons edit), same⟩
      | cons_cons _ later =>
        obtain ⟨listed, isListed, same⟩ := ih later
        cases isListed with
        | cons _ without =>
          exact ⟨other :: listed, (without.cons_cons other).cons edit, same.cons other⟩
        | cons_cons _ without =>
          exact ⟨_, (without.cons_cons other).cons_cons edit,
            (SameByStart.swap _ distinct.symm).trans (same.cons other)⟩

theorem exists_listed (edits : List Edit) {chosen : List Edit}
    (isChosen : chosen.Sublist (lastFirst edits)) :
    ∃ listed, listed.Sublist edits ∧ SameByStart listed chosen := by
  induction edits generalizing chosen with
  | nil => exact ⟨chosen, isChosen, fun _ => rfl⟩
  | cons edit edits ih =>
    obtain ⟨moved, isMoved, same⟩ := exists_listed_of_insertByStart edit (lastFirst edits) isChosen
    cases isMoved with
    | cons _ without =>
      obtain ⟨listed, isListed, sameRest⟩ := ih without
      exact ⟨listed, isListed.cons edit, sameRest.trans same⟩
    | cons_cons _ without =>
      obtain ⟨listed, isListed, sameRest⟩ := ih without
      exact ⟨edit :: listed, isListed.cons_cons edit, (sameRest.cons edit).trans same⟩

theorem lastFirst_eq_of_perm {edits edits' : List Edit} (distinct : (edits.map start).Nodup)
    (perm : edits'.Perm edits) : lastFirst edits' = lastFirst edits := by
  have reordered : (lastFirst edits').Perm (lastFirst edits) :=
    ((lastFirst_perm edits').trans perm).trans (lastFirst_perm edits).symm
  refine reordered.eq_of_pairwise ?_ (lastFirst_sorted edits') (lastFirst_sorted edits)
  intro one other member member' behind before
  have inList : one ∈ edits := ((lastFirst_perm edits').trans perm).subset member
  have inList' : other ∈ edits := (lastFirst_perm edits).subset member'
  exact List.inj_on_of_nodup_map distinct inList inList' (Nat.le_antisymm before behind)

end CourseLint.Edit
