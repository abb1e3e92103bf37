import Mathlib.Data.List.Basic
import Mathlib.Data.List.DropRight
import Mathlib.Data.List.TakeWhile
import CourseLint.Text.Basic

set_option autoImplicit false

namespace CourseLint.Text

variable {c : Char} {front front' back back' : Text}

theorem cut_at_only (before : c ∉ front) (behind : c ∉ back)
    (same : front ++ c :: back = front' ++ c :: back') : front = front' ∧ back = back' := by
  obtain ⟨sameFront, -, sameBack⟩ := (List.append_cons_inj_of_notMem before behind).mp same
  exact ⟨sameFront, sameBack⟩

theorem cut_at_first (absent : c ∉ front) (absent' : c ∉ front')
    (same : front ++ c :: back = front' ++ c :: back') : front = front' ∧ back = back' := by
  rcases List.append_eq_append_iff.mp same with ⟨between, rfl, rest⟩ | ⟨between, rfl, rest⟩
  all_goals
    cases between with
    | nil => simp_all
    | cons d between => simp_all

theorem cut_at_last (absent : c ∉ back) (absent' : c ∉ back')
    (same : front ++ c :: back = front' ++ c :: back') : front = front' ∧ back = back' := by
  rcases List.append_eq_append_iff.mp same with ⟨between, rfl, rest⟩ | ⟨between, rfl, rest⟩
  all_goals
    cases between with
    | nil => simp_all
    | cons d between => simp_all

theorem prefix_append_cons_iff {text : Text} (absent : c ∉ text) :
    text <+: front ++ c :: back ↔ text <+: front := by
  constructor
  · intro isPrefix
    have inFront := List.prefix_or_prefix_of_prefix isPrefix (List.prefix_append _ _)
    rcases inFront with inside | ⟨more, rfl⟩
    · exact inside
    · cases more with
      | nil => simp
      | cons d more =>
        have behind := (List.prefix_append_right_inj front).mp isPrefix
        obtain ⟨rfl, -⟩ := List.cons_prefix_cons.mp behind
        simp at absent
  · exact fun inside => inside.trans (List.prefix_append _ _)

section Enclosed

variable {opening closing : Char} {inner inner' rest between : Text}

theorem exists_behind_closing (different : opening ≠ closing) (noOpen : opening ∉ inner)
    (same : inner ++ closing :: back = between ++ opening :: rest) :
    ∃ gap, between = inner ++ closing :: gap ∧ back = gap ++ opening :: rest := by
  cases List.append_eq_append_iff.mp same with
  | inl longer =>
    obtain ⟨gap, rfl, behind⟩ := longer
    cases gap with
    | nil => exact absurd (List.cons.inj behind).1.symm different
    | cons c gap =>
      obtain ⟨rfl, rfl⟩ := List.cons.inj behind
      exact ⟨gap, rfl, rfl⟩
  | inr shorter =>
    obtain ⟨gap, rfl, behind⟩ := shorter
    cases gap with
    | nil => exact absurd (List.cons.inj behind).1 different
    | cons c gap =>
      obtain ⟨rfl, -⟩ := List.cons.inj behind
      simp at noOpen

theorem enclosed_same_or_apart (different : opening ≠ closing) (noOpen : opening ∉ inner)
    (noClose : closing ∉ inner) (noOpen' : opening ∉ inner') (noClose' : closing ∉ inner')
    (same : front ++ opening :: (inner ++ closing :: back) =
      front' ++ opening :: (inner' ++ closing :: back')) :
    inner = inner' ∨
      (∃ gap, front' = front ++ opening :: (inner ++ closing :: gap) ∧
        back = gap ++ opening :: (inner' ++ closing :: back')) ∨
      ∃ gap, front = front' ++ opening :: (inner' ++ closing :: gap) ∧
        back' = gap ++ opening :: (inner ++ closing :: back) := by
  cases List.append_eq_append_iff.mp same with
  | inl later =>
    obtain ⟨between, rfl, fromFirst⟩ := later
    cases between with
    | nil => exact Or.inl (cut_at_first noClose noClose' (List.cons.inj fromFirst).2).1
    | cons c between =>
      obtain ⟨rfl, inside⟩ := List.cons.inj fromFirst
      obtain ⟨gap, rfl, behind⟩ := exists_behind_closing different noOpen inside
      exact Or.inr (Or.inl ⟨gap, rfl, behind⟩)
  | inr earlier =>
    obtain ⟨between, rfl, fromSecond⟩ := earlier
    cases between with
    | nil => exact Or.inl (cut_at_first noClose noClose' (List.cons.inj fromSecond).2.symm).1
    | cons c between =>
      obtain ⟨rfl, inside⟩ := List.cons.inj fromSecond
      obtain ⟨gap, rfl, behind⟩ := exists_behind_closing different noOpen' inside
      exact Or.inr (Or.inr ⟨gap, rfl, behind⟩)

end Enclosed

section Runs

variable {accepts : Char → Bool} {run run' front back back' : Text}

theorem takeWhile_run (all : ∀ c ∈ run, accepts c = true)
    (ends : ∀ c ∈ back.head?, accepts c = false) : (run ++ back).takeWhile accepts = run := by
  rw [List.takeWhile_append_of_pos all]
  cases back with
  | nil => simp
  | cons c back => simp [ends c rfl]

theorem rtakeWhile_run (all : ∀ c ∈ run, accepts c = true)
    (ends : ∀ c ∈ front.getLast?, accepts c = false) : (front ++ run).rtakeWhile accepts = run := by
  have backwards : (run.reverse ++ front.reverse).takeWhile accepts = run.reverse :=
    takeWhile_run (by simpa using all) (by simpa using ends)
  rw [List.rtakeWhile, List.reverse_append, backwards, List.reverse_reverse]

theorem cut_behind_run (all : ∀ c ∈ run, accepts c = true) (all' : ∀ c ∈ run', accepts c = true)
    (ends : ∀ c ∈ back.head?, accepts c = false) (ends' : ∀ c ∈ back'.head?, accepts c = false)
    (same : run ++ back = run' ++ back') : run = run' ∧ back = back' := by
  have sameRun : run = run' := by
    rw [← takeWhile_run all ends, same, takeWhile_run all' ends']
  rw [sameRun] at same
  exact ⟨sameRun, List.append_cancel_left same⟩

end Runs

end CourseLint.Text
