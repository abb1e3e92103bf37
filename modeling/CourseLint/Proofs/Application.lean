import Mathlib.Data.List.Basic
import CourseLint.Edit

set_option autoImplicit false

namespace CourseLint

namespace Text

theorem prefix_of_width_le {first second text : Text} (isFirst : first <+: text)
    (isSecond : second <+: text) (shorter : width first ≤ width second) : first <+: second := by
  rcases List.prefix_or_prefix_of_prefix isFirst isSecond with inside | ⟨rest, rfl⟩
  · exact inside
  · have none : rest = [] := by
      rw [← width_eq_zero_iff]
      rw [width_append] at shorter
      omega
    simp [none]

theorem eq_of_width_eq {first second text : Text} (isFirst : first <+: text)
    (isSecond : second <+: text) (same : width first = width second) : first = second :=
  (prefix_of_width_le isFirst isSecond (Nat.le_of_eq same)).eq_of_length_le
    (prefix_of_width_le isSecond isFirst (Nat.le_of_eq same.symm)).length_le

end Text

namespace Edit

open Text

theorem Progress.step_skip (progress : Progress) (edit : Edit)
    (beyond : width progress.untouched < edit.stop) :
    progress.step edit = some { progress with skipped := progress.skipped + 1 } :=
  if_pos beyond

theorem Progress.step_apply (progress : Progress) (edit : Edit) {front replaced between : Text}
    (untouched : progress.untouched = front ++ replaced ++ between)
    (start : edit.start = width front) (stop : edit.stop = width (front ++ replaced)) :
    progress.step edit = some ⟨front, edit.text ++ between ++ progress.finished,
      progress.applied + 1, progress.skipped⟩ := by
  have within : ¬ width progress.untouched < edit.stop := by
    rw [untouched, stop, width_append (front ++ replaced)]
    omega
  have cutStop := splitAtByte?_append (front ++ replaced) between
  have cutStart := splitAtByte?_append front replaced
  simp only [Progress.step, if_neg within]
  rw [untouched, stop, start, cutStop]
  simp [cutStart]

theorem insertByStart_perm (edit : Edit) (edits : List Edit) :
    (insertByStart edit edits).Perm (edit :: edits) := by
  induction edits with
  | nil => exact .refl _
  | cons other others ih =>
    simp only [insertByStart]
    split
    · exact .refl _
    · exact (ih.cons other).trans (.swap edit other others)

theorem lastFirst_perm (edits : List Edit) : (lastFirst edits).Perm edits := by
  induction edits with
  | nil => exact .refl _
  | cons edit edits ih => exact (insertByStart_perm edit _).trans (ih.cons edit)

def kept (limit : Nat) : List Edit → List Edit
  | [] => []
  | edit :: edits => if limit < edit.stop then kept limit edits else edit :: kept edit.start edits

def applied (source : Text) (edits : List Edit) : List Edit := kept (width source) (lastFirst edits)

theorem insertByStart_sorted (edit : Edit) (edits : List Edit)
    (sorted : edits.Pairwise fun one other => other.start ≤ one.start) :
    (insertByStart edit edits).Pairwise fun one other => other.start ≤ one.start := by
  induction edits with
  | nil => simp [insertByStart]
  | cons other others ih =>
    obtain ⟨first, rest⟩ := List.pairwise_cons.mp sorted
    simp only [insertByStart]
    split
    · next behind =>
      refine List.pairwise_cons.mpr ⟨?_, sorted⟩
      intro later member
      rcases List.mem_cons.mp member with rfl | member
      · exact behind
      · exact Nat.le_trans (first later member) behind
    · next before =>
      refine List.pairwise_cons.mpr ⟨?_, ih rest⟩
      intro later member
      rcases List.mem_cons.mp ((insertByStart_perm edit others).mem_iff.mp member) with rfl | member
      · omega
      · exact first later member

theorem lastFirst_sorted (edits : List Edit) :
    (lastFirst edits).Pairwise fun one other => other.start ≤ one.start := by
  induction edits with
  | nil => exact .nil
  | cons edit edits ih => exact insertByStart_sorted edit _ ih

theorem lastFirst_eq_self (edits : List Edit)
    (sorted : edits.Pairwise fun one other => other.start ≤ one.start) :
    lastFirst edits = edits := by
  induction edits with
  | nil => rfl
  | cons edit edits ih =>
    obtain ⟨first, rest⟩ := List.pairwise_cons.mp sorted
    change insertByStart edit (lastFirst edits) = edit :: edits
    rw [ih rest]
    cases edits with
    | nil => rfl
    | cons other others => exact if_pos (first other (by simp))

theorem kept_sublist (limit : Nat) (edits : List Edit) : (kept limit edits).Sublist edits := by
  induction edits generalizing limit with
  | nil => exact .refl _
  | cons edit edits ih =>
    simp only [kept]
    split
    · exact (ih limit).cons edit
    · exact (ih edit.start).cons_cons edit

theorem mem_of_mem_applied {source : Text} {edits : List Edit} {edit : Edit}
    (taken : edit ∈ applied source edits) : edit ∈ edits :=
  (lastFirst_perm edits).subset ((kept_sublist _ _).subset taken)

theorem Progress.width_untouched_of_step {progress next : Progress} {edit : Edit}
    (stepped : progress.step edit = some next) (within : ¬ width progress.untouched < edit.stop) :
    width next.untouched = edit.start ∧ next.applied = progress.applied + 1 ∧
      next.skipped = progress.skipped := by
  simp only [Progress.step, if_neg within, Option.bind_eq_bind, Option.bind_eq_some_iff,
    Option.pure_def, Option.some.injEq] at stepped
  obtain ⟨_, _, ⟨before, _⟩, cut, rfl⟩ := stepped
  exact ⟨((splitAtByte?_eq_some_iff _ _ _ _).mp cut).2, rfl, rfl⟩

theorem foldlM_kept (edits : List Edit) (progress final : Progress) (skipped : Nat)
    (run : edits.foldlM Progress.step progress = some final) :
    (kept (width progress.untouched) edits).foldlM Progress.step
        { progress with skipped := skipped } = some { final with skipped := skipped } ∧
      final.applied = progress.applied + (kept (width progress.untouched) edits).length := by
  -- The number of skipped edits is free, for it is all that a skipped edit changes.
  induction edits generalizing progress with
  | nil =>
    obtain rfl := Option.some.inj run
    exact ⟨rfl, rfl⟩
  | cons edit edits ih =>
    simp only [List.foldlM_cons, Option.bind_eq_bind, Option.bind_eq_some_iff] at run
    obtain ⟨next, stepped, run⟩ := run
    by_cases beyond : width progress.untouched < edit.stop
    · rw [Progress.step_skip progress edit beyond] at stepped
      obtain rfl := Option.some.inj stepped
      simpa only [kept, if_pos beyond] using ih _ run
    · obtain ⟨limit, applied, -⟩ := Progress.width_untouched_of_step stepped beyond
      obtain ⟨sameText, count⟩ := ih next run
      rw [limit] at sameText count
      have sameStep : ({ progress with skipped := skipped } : Progress).step edit =
          some { next with skipped := skipped } := by
        simp only [Progress.step, if_neg beyond, Option.bind_eq_bind, Option.bind_eq_some_iff,
          Option.pure_def, Option.some.injEq] at stepped ⊢
        obtain ⟨cutStop, atStop, cutStart, atStart, rfl⟩ := stepped
        exact ⟨cutStop, atStop, cutStart, atStart, rfl⟩
      simp only [kept, if_neg beyond, List.foldlM_cons, Option.bind_eq_bind, sameStep,
        Option.bind_some, List.length_cons]
      exact ⟨sameText, by omega⟩

theorem applyAll_applied {source : Text} {edits : List Edit} {repaired : Repair}
    (result : applyAll source edits = some repaired) :
    applyAll source (applied source edits) = some { repaired with skipped := 0 } ∧
      repaired.applied = (applied source edits).length := by
  simp only [applyAll, Option.bind_eq_bind, Option.bind_eq_some_iff, Option.pure_def,
    Option.some.injEq] at result ⊢
  obtain ⟨final, run, rfl⟩ := result
  obtain ⟨sameText, count⟩ := foldlM_kept (lastFirst edits) ⟨source, [], 0, 0⟩ final 0 run
  have sorted := (lastFirst_sorted edits).sublist (kept_sublist (width source) (lastFirst edits))
  rw [applied, lastFirst_eq_self _ sorted]
  exact ⟨⟨_, sameText, rfl⟩, by simpa using count⟩

end Edit

end CourseLint
