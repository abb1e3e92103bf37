import CourseLint.Lint
import CourseLint.Proofs.Placement
import CourseLint.Proofs.RuleRepairs

set_option autoImplicit false

namespace CourseLint

open Text

namespace Piece

variable {source : Text} (piece : Piece source)

theorem no_feed_covered : '\n' ∉ piece.covered := by
  intro feed
  exact piece.line_proper.no_feed (by simp [piece.text_eq, feed])

theorem no_feed_tail : '\n' ∉ piece.tail := by
  intro feed
  exact piece.line_proper.no_feed (by simp [piece.text_eq, feed])

theorem at_end (start : width piece.front = width source) :
    piece.covered = [] ∧ piece.before.length + 1 = (linesOf source).length := by
  have whole := congrArg width piece.source_eq
  simp only [width_append, start] at whole
  have noReplaced : piece.replaced = [] := (width_eq_zero_iff _).mp (by omega)
  have noBehind : piece.behind = [] := (width_eq_zero_iff _).mp (by omega)
  obtain ⟨noCovered, noSwallowed⟩ := List.append_eq_nil_iff.mp noReplaced
  obtain ⟨lineRest, -⟩ := List.append_eq_nil_iff.mp noBehind
  have atEnd : piece.tail = [] := by
    by_contra inside
    rw [if_neg inside] at lineRest
    exact inside (List.append_eq_nil_iff.mp lineRest).1
  have isOpen : piece.line.ending = .absent := by
    rw [swallowed, if_pos atEnd] at noSwallowed
    cases ending : piece.line.ending with
    | absent => rfl
    | lineFeed | carriageReturnLineFeed => simp [ending, Ending.text] at noSwallowed
  exact ⟨noCovered, by simp [piece.lines_eq, piece.after_eq_nil isOpen]⟩

end Piece

structure Diagnostic.Repairs {source : Text} (diagnostic : Diagnostic) (piece : Piece source)
    (replacement : Text) : Prop where
  asks : ∃ plain : Diagnostic, plain.range = piece.span.range ∧
    diagnostic = plain.withReplacement replacement
  rewrites : Rewrites piece.head piece.covered piece.tail replacement

def Edit.Repairs (source : Text) (edit : Edit) : Prop :=
  ∃ (piece : Piece source) (replacement : Text), edit = piece.edit replacement ∧
    Rewrites piece.head piece.covered piece.tail replacement

def Edit.Apart (source : Text) (one other : Edit) : Prop :=
  one.start = width source → other.start ≠ width source

section Diagnostics

variable {source : Text}

theorem Diagnostic.Repairs.placed {diagnostic : Diagnostic} {piece : Piece source}
    {replacement : Text} (repairs : diagnostic.Repairs piece replacement) :
    diagnostic.suggestion.bind (Edit.ofSuggestion? source) = some (piece.edit replacement) := by
  obtain ⟨plain, range, rfl⟩ := repairs.asks
  refine piece.ofSuggestion?_withReplacement plain replacement range
    repairs.rewrites.replacement_ne_nil ?_
  exact fun feed => repairs.rewrites.no_feed piece.no_feed_covered (List.mem_of_getLast? feed)

theorem Rule.suggestion_of_no_replacement {finding : Finding} (rule : Rule) (path : Text)
    (noReplacement : finding.replacement = none) :
    (rule.diagnose path finding).suggestion = none := by
  simp only [Rule.diagnose, noReplacement]
  rfl

theorem Rule.diagnose_asks {finding : Finding} {piece : Piece source} {replacement : Text}
    (rule : Rule) (path : Text) (span : finding.span = piece.span)
    (replaced : finding.replacement = some replacement) :
    ∃ plain : Diagnostic, plain.range = piece.span.range ∧
      rule.diagnose path finding = plain.withReplacement replacement := by
  refine ⟨(Diagnostic.ofSpan path finding.span rule.severity finding.message).withCode rule.code,
    ?_, ?_⟩
  · rw [← span]
    rfl
  · simp only [Rule.diagnose, replaced]

theorem Rule.repairs_of_isRepair {finding : Finding} (rule : Rule) (path : Text)
    (repair : finding.IsRepair (splitLines source)) :
    ∃ (piece : Piece source) (replacement : Text), finding.span = piece.span ∧
      finding.replacement = some replacement ∧
      (rule.diagnose path finding).Repairs piece replacement := by
  obtain ⟨lineIndex, head, covered, tail, replacement, present, span, replaced, rewrites⟩ := repair
  rw [splitLines, List.getElem?_map, Option.map_eq_some_iff] at present
  obtain ⟨line, present, parts⟩ := present
  obtain ⟨piece, rfl, rfl, rfl, rfl, rfl⟩ := exists_piece _ _ _ present parts
  have samePlace : finding.span = piece.span := by rw [span, Piece.span, parts]
  exact ⟨piece, replacement, samePlace, replaced,
    ⟨rule.diagnose_asks path samePlace replaced, rewrites⟩⟩

structure Repairable (source : Text) (diagnostics : List Diagnostic) : Prop where
  repairs : ∀ diagnostic ∈ diagnostics, diagnostic.suggestion = none ∨
    ∃ (piece : Piece source) (replacement : Text), diagnostic.Repairs piece replacement
  apart : diagnostics.Pairwise fun one other =>
    ∀ edit ∈ one.suggestion.bind (Edit.ofSuggestion? source),
    ∀ edit' ∈ other.suggestion.bind (Edit.ofSuggestion? source), edit.Apart source edit'

theorem Repairable.sublist {diagnostics chosen : List Diagnostic}
    (repairable : Repairable source diagnostics) (sublist : chosen.Sublist diagnostics) :
    Repairable source chosen where
  repairs diagnostic member := repairable.repairs diagnostic (sublist.mem member)
  apart := repairable.apart.sublist sublist

variable [Pattern.Engine]

theorem Rule.repairs_of_mem_check {rule : Rule} (builtin : rule ∈ Registry.builtinRules) (page : Page)
    (lines : page.lines = splitLines source) (finding : Finding)
    (member : finding ∈ rule.findings page) :
    (rule.diagnose page.path finding).suggestion = none ∨
      ∃ (piece : Piece source) (replacement : Text), finding.span = piece.span ∧
        finding.replacement = some replacement ∧
        (rule.diagnose page.path finding).Repairs piece replacement := by
  rcases rule.repair_of_builtin builtin page with rfl | repair
  · have isRepair := Rule.repair_of_callDelimiters member
    rw [lines] at isRepair
    exact .inr (Rule.repairs_of_isRepair _ page.path isRepair)
  · rcases repair finding member with noReplacement | ⟨isRepair, -⟩
    · exact .inl (rule.suggestion_of_no_replacement page.path noReplacement)
    · rw [lines] at isRepair
      exact .inr (rule.repairs_of_isRepair page.path isRepair)

omit [Pattern.Engine] in
theorem Edit.apart_of_findings {one other : Piece source} {finding finding' : Finding}
    {replacement replacement' : Text} (span : finding.span = one.span)
    (span' : finding'.span = other.span) (replaced : finding.replacement = some replacement)
    (replaced' : finding'.replacement = some replacement') (apart : finding.Apart finding') :
    (one.edit replacement).Apart source (other.edit replacement') := by
  intro atEnd atEnd'
  obtain ⟨noCovered, isLast⟩ := one.at_end atEnd
  obtain ⟨noCovered', isLast'⟩ := other.at_end atEnd'
  have inserts : finding.Inserts := by simp [Finding.Inserts, replaced, span, Piece.span, noCovered]
  have inserts' : finding'.Inserts := by
    simp [Finding.Inserts, replaced', span', Piece.span, noCovered']
  have otherLine := apart inserts inserts'
  rw [span, span'] at otherLine
  change one.before.length ≠ other.before.length at otherLine
  omega

theorem Edit.apart_of_apart {rule rule' : Rule} (builtin : rule ∈ Registry.builtinRules)
    (builtin' : rule' ∈ Registry.builtinRules) {page : Page}
    (lines : page.lines = splitLines source) {finding finding' : Finding}
    (member : finding ∈ rule.findings page) (member' : finding' ∈ rule'.findings page)
    (apart : finding.Apart finding') {edit edit' : Edit}
    (placed : (rule.diagnose page.path finding).suggestion.bind (Edit.ofSuggestion? source) =
      some edit)
    (placed' : (rule'.diagnose page.path finding').suggestion.bind (Edit.ofSuggestion? source) =
      some edit') : edit.Apart source edit' := by
  rcases Rule.repairs_of_mem_check builtin page lines finding member with
    none | ⟨piece, replacement, span, replaced, repairs⟩
  · simp [none] at placed
  · rcases Rule.repairs_of_mem_check builtin' page lines finding' member' with
      none' | ⟨piece', replacement', span', replaced', repairs'⟩
    · simp [none'] at placed'
    · obtain rfl := Option.some.inj (repairs.placed.symm.trans placed)
      obtain rfl := Option.some.inj (repairs'.placed.symm.trans placed')
      exact Edit.apart_of_findings span span' replaced replaced' apart

theorem repairable_of_rules {rules : List Rule} (builtin : rules.Sublist Registry.builtinRules)
    (page : Page) (lines : page.lines = splitLines source) :
    Repairable source (rules.flatMap (·.check page)) where
  repairs := by
    intro diagnostic member
    obtain ⟨rule, inForce, checked⟩ := List.mem_flatMap.mp member
    obtain ⟨finding, found, rfl⟩ := List.mem_map.mp checked
    rcases Rule.repairs_of_mem_check (builtin.mem inForce) page lines finding found with
      none | ⟨piece, replacement, -, -, repairs⟩
    · exact .inl none
    · exact .inr ⟨piece, replacement, repairs⟩
  apart := by
    refine List.pairwise_flatMap.mpr ⟨?_, ?_⟩
    · intro rule inForce
      have within := Rule.pairwise_apart_findings (builtin.mem inForce) page
      refine List.pairwise_map.mpr (List.Pairwise.imp_of_mem ?_ within)
      intro finding finding' member member' apart edit placed edit' placed'
      exact Edit.apart_of_apart (builtin.mem inForce) (builtin.mem inForce) lines member member'
        apart placed placed'
    · -- Of two rules with different ids at most one is the rule on call delimiters.
      have distinct := List.pairwise_map.mp (Rule.nodup_ids_builtinRules.sublist (builtin.map _))
      refine List.Pairwise.imp_of_mem ?_ distinct
      intro rule rule' inForce inForce' otherId diagnostic checked diagnostic' checked' edit placed
        edit' placed'
      obtain ⟨finding, member, rfl⟩ := List.mem_map.mp checked
      obtain ⟨finding', member', rfl⟩ := List.mem_map.mp checked'
      have apart := Rule.apart_of_two_rules (builtin.mem inForce) (builtin.mem inForce') otherId page
        member member'
      exact Edit.apart_of_apart (builtin.mem inForce) (builtin.mem inForce') lines member member'
        apart placed placed'

omit [Pattern.Engine] in
theorem Registry.disable_sublist (registry : Registry) (names : List Text) :
    (registry.disable names).1.rules.Sublist registry.rules := by
  induction names generalizing registry with
  | nil => exact .refl _
  | cons name names ih => exact (ih _).trans List.filter_sublist

theorem Registry.forKind_builtins_sublist (names : List Text) (kind : FileKind) :
    ((builtins.disable names).1.forKind kind).Sublist builtinRules := by
  rw [← rules_builtins]
  exact List.filter_sublist.trans (builtins.disable_sublist names)

variable [Bibliography.Reader]

omit [Pattern.Engine] in
theorem lint_markup_eq (registry : Registry) (fileExists : Text → Bool) {path : Path}
    (markup : FileKind.ofPath path = .markup) (source : Text) :
    lint registry fileExists path source =
      .ok (registry.diagnose .markup ⟨path, splitLines source, [], fileExists⟩) := by
  simp only [lint, markup, bibEntriesOf, reduceCtorEq, if_false]
  rfl

theorem lint_markup (names : List Text) (fileExists : Text → Bool) {path : Path}
    (markup : FileKind.ofPath path = .markup) (source : Text) :
    ∃ diagnostics, lint (Registry.builtins.disable names).1 fileExists path source = .ok diagnostics ∧
      Repairable source diagnostics := by
  refine ⟨_, lint_markup_eq _ fileExists markup source, ?_⟩
  exact repairable_of_rules (Registry.forKind_builtins_sublist names .markup)
    ⟨path, splitLines source, [], fileExists⟩ rfl

end Diagnostics

end CourseLint
