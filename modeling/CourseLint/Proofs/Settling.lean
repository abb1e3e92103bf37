import Mathlib.Order.WellFounded
import CourseLint.Bibliography.Resolved
import CourseLint.Proofs.Potential
import CourseLint.Proofs.Round

set_option autoImplicit false

namespace CourseLint

open Text

namespace Edit

variable {source : Text}

theorem Rewriting.potential_lt {edit : Edit} {text result : Text}
    (rewriting : Rewriting source edit text result) : potential result < potential text := by
  obtain ⟨piece, replacement, behind, rfl, rfl, rfl, rewrites, -, brace⟩ := rewriting
  exact rewrites.potential_lt piece.before piece.before_closed piece.no_feed_covered behind brace

theorem Rewritten.potential_le {edits : List Edit} {text result : Text}
    (rewritten : Rewritten source edits text result) : potential result ≤ potential text := by
  induction rewritten with
  | nil text => exact le_rfl
  | cons first rest ih => exact ih.trans first.potential_lt.le

theorem Rewritten.potential_lt {edits : List Edit} {text result : Text}
    (rewritten : Rewritten source edits text result) (nonempty : edits ≠ []) :
    potential result < potential text := by
  cases rewritten with
  | nil text => exact absurd rfl nonempty
  | cons first rest => exact rest.potential_le.trans_lt first.potential_lt

theorem applied_ne_nil {edits : List Edit} (nonempty : edits ≠ [])
    (within : ∀ edit ∈ edits, edit.stop ≤ width source) : applied source edits ≠ [] := by
  have reordered := lastFirst_perm edits
  rw [applied]
  cases sorted : lastFirst edits with
  | nil =>
    rw [sorted] at reordered
    exact absurd (List.nil_perm.mp reordered) nonempty
  | cons first others =>
    have fits := within first (reordered.mem_iff.mp (by simp [sorted]))
    rw [kept, if_neg (Nat.not_lt.mpr fits)]
    exact List.cons_ne_nil _ _

end Edit

theorem Repairable.progress {source : Text} {diagnostics : List Diagnostic}
    (repairable : Repairable source diagnostics)
    (suggests : ∃ diagnostic ∈ diagnostics, diagnostic.suggestion ≠ none) :
    ∃ repaired, repair source diagnostics = some (repaired, 0) ∧ 0 < repaired.applied ∧
      potential repaired.text < potential source := by
  obtain ⟨repaired, result, repairEq, rewritten⟩ := repairable.round
  have some : Edit.suggested source diagnostics ≠ [] := by
    obtain ⟨diagnostic, member, suggested⟩ := suggests
    rcases repairable.repairs diagnostic member with none | ⟨piece, replacement, repairs⟩
    · exact absurd none suggested
    · exact List.ne_nil_of_mem (List.mem_filterMap.mpr ⟨diagnostic, member, repairs.placed⟩)
  have within : ∀ edit ∈ Edit.suggested source diagnostics, edit.stop ≤ width source := by
    intro edit member
    obtain ⟨piece, replacement, rfl, -⟩ := repairable.edit_repairs edit member
    exact piece.stop_le replacement
  have nonempty := Edit.applied_ne_nil some within
  obtain ⟨-, count⟩ := Edit.applyAll_applied result
  refine ⟨repaired, repairEq, ?_, rewritten.potential_lt nonempty⟩
  rw [count]
  exact List.length_pos_iff.mpr nonempty

section Rounds

variable [Bibliography.Reader] (registry : Registry) (fileExists : Text → Bool) (path : Path)

def afterRound (source : Text) : Option Text := do
  let diagnostics ← (lint registry fileExists path source).toOption
  let (repaired, _) ← repair source diagnostics
  pure repaired.text

def afterRounds : Nat → Text → Option Text
  | 0, source => some source
  | rounds + 1, source => (afterRound registry fileExists path source).bind (afterRounds rounds)

def Settled (source : Text) : Prop :=
  ∃ diagnostics, lint registry fileExists path source = .ok diagnostics ∧
    ∀ diagnostic ∈ diagnostics, diagnostic.suggestion = none

variable {registry fileExists path}

theorem afterRound_eq {source : Text} {diagnostics : List Diagnostic} {repaired : Repair}
    {invalid : Nat} (linted : lint registry fileExists path source = .ok diagnostics)
    (result : repair source diagnostics = some (repaired, invalid)) :
    afterRound registry fileExists path source = some repaired.text := by
  simp only [afterRound, linted, Except.toOption, Option.bind_eq_bind, Option.bind_some, result]
  rfl

omit [Bibliography.Reader] in
theorem repair_of_no_suggestion (source : Text) {diagnostics : List Diagnostic}
    (none : ∀ diagnostic ∈ diagnostics, diagnostic.suggestion = none) :
    repair source diagnostics = some (⟨source, 0, 0⟩, 0) := by
  have nothing : diagnostics.filterMap Diagnostic.suggestion = [] :=
    List.filterMap_eq_nil_iff.mpr none
  have ofDiagnostics : Edit.ofDiagnostics source diagnostics = ([], 0) := by
    simp [Edit.ofDiagnostics, nothing]
  refine repair_eq ofDiagnostics ?_
  simp [Edit.applyAll, Edit.lastFirst]

theorem Settled.afterRound_eq {source : Text} (settled : Settled registry fileExists path source) :
    afterRound registry fileExists path source = some source := by
  obtain ⟨diagnostics, linted, none⟩ := settled
  exact CourseLint.afterRound_eq linted (repair_of_no_suggestion source none)

end Rounds

section Builtins

variable [Bibliography.Reader] [Pattern.Engine] (names : List Text) (fileExists : Text → Bool)
  {path : Path}

theorem afterRound_builtins (markup : FileKind.ofPath path = .markup) (source : Text) :
    Settled (Registry.builtins.disable names).1 fileExists path source ∨
      ∃ result, afterRound (Registry.builtins.disable names).1 fileExists path source =
        some result ∧ potential result < potential source := by
  obtain ⟨diagnostics, linted, repairable⟩ := lint_markup names fileExists markup source
  by_cases suggests : ∃ diagnostic ∈ diagnostics, diagnostic.suggestion ≠ none
  · obtain ⟨repaired, result, -, lower⟩ := repairable.progress suggests
    exact .inr ⟨repaired.text, afterRound_eq linted result, lower⟩
  · refine .inl ⟨diagnostics, linted, fun diagnostic member => ?_⟩
    by_contra suggested
    exact suggests ⟨diagnostic, member, suggested⟩

theorem exists_settled (markup : FileKind.ofPath path = .markup) (source : Text) :
    ∃ rounds final,
      afterRounds (Registry.builtins.disable names).1 fileExists path rounds source = some final ∧
      Settled (Registry.builtins.disable names).1 fileExists path final := by
  -- Well-founded induction on the potential; how far it falls in a round does not matter.
  induction source using (InvImage.wf potential wellFounded_lt).induction with
  | _ source ih =>
    rcases afterRound_builtins names fileExists markup source with settled | ⟨result, round, lower⟩
    · exact ⟨0, source, rfl, settled⟩
    · obtain ⟨rounds, final, more, settled⟩ := ih result lower
      refine ⟨rounds + 1, final, ?_, settled⟩
      rw [afterRounds, round, Option.bind_some, more]

theorem run_settles (markup : FileKind.ofPath path = .markup) (run : Nat → Text)
    (rounds : ∀ round, afterRound (Registry.builtins.disable names).1 fileExists path (run round) =
      some (run (round + 1))) :
    ∃ round, ∀ later, round ≤ later → run later = run round ∧
      Settled (Registry.builtins.disable names).1 fileExists path (run later) := by
  obtain ⟨round, settled⟩ : ∃ round,
      Settled (Registry.builtins.disable names).1 fileExists path (run round) := by
    by_contra never
    -- Without a settled text the potential would fall for ever.
    obtain ⟨round, stays⟩ :=
      WellFounded.not_rel_apply_succ (r := (· < ·)) fun round => potential (run round)
    rcases afterRound_builtins names fileExists markup (run round) with
      settled | ⟨result, isNext, lower⟩
    · exact never ⟨round, settled⟩
    · obtain rfl := Option.some.inj (isNext.symm.trans (rounds round))
      exact stays lower
  refine ⟨round, fun later behind => ?_⟩
  obtain ⟨distance, rfl⟩ := Nat.exists_eq_add_of_le behind
  have same : run (round + distance) = run round := by
    clear behind
    induction distance with
    | zero => rfl
    | succ distance ih =>
      have next := rounds (round + distance)
      rw [ih, settled.afterRound_eq] at next
      exact (Option.some.inj next).symm
  rw [same]
  exact ⟨rfl, settled⟩

end Builtins

theorem rounds_settle [Bibliography.Reader] [Pattern.Engine] (names : List Text)
    (fileExists : Text → Bool) (path : Path)
    (markup : FileKind.ofPath path = .markup) :
    (∀ source, ∃ rounds final,
      afterRounds (Registry.builtins.disable names).1 fileExists path rounds source = some final ∧
      Settled (Registry.builtins.disable names).1 fileExists path final) ∧
    (∀ source, ∃ diagnostics repaired,
      lint (Registry.builtins.disable names).1 fileExists path source = .ok diagnostics ∧
      repair source diagnostics = some (repaired, 0) ∧
      ((∃ diagnostic ∈ diagnostics, diagnostic.suggestion ≠ none) → 0 < repaired.applied)) ∧
    ∀ run : Nat → Text,
      (∀ round, afterRound (Registry.builtins.disable names).1 fileExists path (run round) =
        some (run (round + 1))) →
      ∃ round, ∀ later, round ≤ later → run later = run round ∧
        Settled (Registry.builtins.disable names).1 fileExists path (run later) := by
  refine ⟨exists_settled names fileExists markup, ?_, run_settles names fileExists markup⟩
  intro source
  obtain ⟨diagnostics, linted, repairable⟩ := lint_markup names fileExists markup source
  obtain ⟨repaired, -, result, -⟩ := repairable.round
  refine ⟨diagnostics, repaired, linted, result, fun suggests => ?_⟩
  obtain ⟨repaired', result', some, -⟩ := repairable.progress suggests
  rw [result] at result'
  obtain ⟨rfl, -⟩ := Prod.mk.inj (Option.some.inj result')
  exact some

theorem rounds_settle_box_title :
    FileKind.ofPath ("tutorial.md" : Text) = .markup ∧ ∃ rounds final,
      afterRounds (Registry.builtins.disable []).1 (fun _ => false) "tutorial.md" rounds
        "> ### \x7b% icon tip %\x7d [here](https://doi.org/10.1) \x7b icon %\x7d".toList = some final ∧
      Settled (Registry.builtins.disable []).1 (fun _ => false) "tutorial.md" final :=
  ⟨by decide, (rounds_settle [] (fun _ => false) "tutorial.md" (by decide)).1 _⟩

end CourseLint
