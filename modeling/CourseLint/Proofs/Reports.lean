import CourseLint.Bibliography.Resolved
import CourseLint.Proofs.Suggestions

set_option autoImplicit false

namespace CourseLint

open Text

def Range.LiesOn (lines : List Text) (range : Range) : Prop :=
  ∃ lineIndex line start, lines[lineIndex]? = some line ∧ (splitAtByte? line start).isSome ∧
    range.start = ⟨lineIndex + 1, start + 1⟩ ∧
    (range.stop = ⟨lineIndex + 2, 1⟩ ∨
      ∃ stop, range.stop = ⟨lineIndex + 1, stop + 1⟩ ∧ start ≤ stop ∧ stop < width line ∧
        (splitAtByte? line stop).isSome)

namespace Finding

def LiesOn (lines : List Text) (finding : Finding) : Prop :=
  ∃ lineIndex head covered tail, lines[lineIndex]? = some (head ++ covered ++ tail) ∧
    finding.span = ⟨lineIndex, head ++ covered ++ tail, width head, width (head ++ covered)⟩

variable {lines : List Text} {finding : Finding}

theorem IsRepair.liesOn (repair : finding.IsRepair lines) : finding.LiesOn lines := by
  obtain ⟨lineIndex, head, covered, tail, _, present, span, -, -⟩ := repair
  exact ⟨lineIndex, head, covered, tail, present, span⟩

theorem IsRepair.exists_replacement (repair : finding.IsRepair lines)
    (noFeed : ∀ line ∈ lines, '\n' ∉ line) :
    ∃ replacement, finding.replacement = some replacement ∧ replacement ≠ [] ∧
      '\n' ∉ replacement := by
  obtain ⟨lineIndex, head, covered, tail, replacement, present, -, replaced, rewrites⟩ := repair
  have clean := noFeed _ (List.mem_of_getElem? present)
  simp only [List.mem_append, not_or] at clean
  exact ⟨replacement, replaced, rewrites.replacement_ne_nil, rewrites.no_feed clean.1.2⟩

theorem LiesOn.range (lies : finding.LiesOn lines) : finding.span.range.LiesOn lines := by
  obtain ⟨lineIndex, head, covered, tail, present, span⟩ := lies
  have cutStart := splitAtByte?_append head (covered ++ tail)
  have cutStop := splitAtByte?_append (head ++ covered) tail
  rw [← List.append_assoc] at cutStart
  refine ⟨lineIndex, head ++ covered ++ tail, width head, present, ?_, ?_, ?_⟩
  · rw [cutStart]
    rfl
  · rw [span]
    rfl
  · by_cases atEnd : tail = []
    · refine .inl ?_
      simp [span, Span.range, atEnd]
    · have positive : 0 < width tail := Nat.pos_of_ne_zero (mt (width_eq_zero_iff tail).mp atEnd)
      refine .inr ⟨width (head ++ covered), ?_, by simp, by simpa, by rw [cutStop]; rfl⟩
      simp [span, Span.range, Nat.ne_of_gt positive]

end Finding

namespace Rule

def Reports (rule : Rule) (lines : List Text) (finding : Finding) : Prop :=
  if rule.fixable then finding.IsRepair lines
  else finding.replacement = none ∧ finding.LiesOn lines

theorem advice_of_found {pattern : Pattern} {accepts : Occurrence → Bool} {lines : List Text}
    {occurrence : Occurrence} (message : Text)
    (found : occurrence ∈ pattern.firstOccurrencesWhere accepts lines) :
    (occurrence.advise message).replacement = none ∧
      (occurrence.advise message).LiesOn lines := by
  obtain ⟨lineIndex, front, covered, after, _, present, -, rfl⟩ :=
    Pattern.exists_fit_of_mem_firstOccurrencesWhere found
  exact ⟨rfl, lineIndex, front, covered, after, present, rfl⟩

theorem advice_of_mem_headerSpans [Pattern.Engine] {key message : Text} {lines : List Text} {span : Span}
    (member : span ∈ headerSpans key lines) : Finding.LiesOn lines ⟨span, message, none⟩ := by
  rw [headerSpans] at member
  split at member
  · simp at member
  · simp only [List.mem_map, List.mem_filter] at member
    obtain ⟨⟨line, lineIndex⟩, ⟨present, -⟩, rfl⟩ := member
    refine ⟨lineIndex, [], line, [], ?_, ?_⟩
    · simpa using List.mem_zipIdx_iff_getElem?.mp present
    · simp [Span.wholeLine]

theorem reports_of_builtin [Pattern.Engine] {rule : Rule} (builtin : rule ∈ Registry.builtinRules)
    (page : Page) {finding : Finding} (member : finding ∈ rule.findings page) :
    rule.Reports page.lines finding := by
  simp only [Registry.builtinRules, List.mem_cons, List.not_mem_nil, or_false] at builtin
  rcases builtin with rfl | rfl | rfl | rfl | rfl | rfl | rfl | rfl | rfl | rfl | rfl | rfl
  · obtain ⟨_, found, rfl⟩ := List.mem_map.mp member
    exact advice_of_found _ found
  · obtain ⟨_, found, rfl⟩ := List.mem_map.mp member
    exact advice_of_found _ found
  · exact (repair_of_externalSlidesLink member).1
  · exact (repair_of_externalTutorialLink member).1
  · exact (repair_of_doiCitation member).1
  · exact (repair_of_linkText member).1
  · exact repair_of_callDelimiters member
  · obtain ⟨_, absent, rfl⟩ := List.mem_map.mp member
    exact advice_of_found _ (List.mem_filter.mp absent).1
  · exact (repair_of_toolUrl member).1
  · exact (repair_of_boxTitle member).1
  · obtain ⟨_, found, rfl⟩ := List.mem_map.mp member
    exact advice_of_found _ found
  · obtain ⟨_, _, inSpans⟩ := List.mem_flatMap.mp member
    obtain ⟨_, inHeaders, rfl⟩ := List.mem_map.mp inSpans
    exact ⟨rfl, advice_of_mem_headerSpans inHeaders⟩

namespace Reports

variable {rule : Rule} {lines : List Text} {finding : Finding}

theorem liesOn (reports : rule.Reports lines finding) : finding.LiesOn lines := by
  rw [Reports] at reports
  split at reports
  · exact reports.liesOn
  · exact reports.2

theorem replacement_isSome (reports : rule.Reports lines finding) :
    finding.replacement.isSome = rule.fixable := by
  rw [Reports] at reports
  split at reports
  · next fixable =>
    obtain ⟨_, _, _, _, _, _, _, replaced, _⟩ := reports
    rw [replaced, fixable]
    rfl
  · next notFixable =>
    rw [reports.1, Bool.eq_false_iff.mpr notFixable]
    rfl

theorem replacement_clean (reports : rule.Reports lines finding)
    (noFeed : ∀ line ∈ lines, '\n' ∉ line) :
    ∀ replacement ∈ finding.replacement, replacement ≠ [] ∧ '\n' ∉ replacement := by
  intro replacement isReplacement
  rw [Reports] at reports
  split at reports
  · obtain ⟨replacement', replaced, nonempty, clean⟩ := reports.exists_replacement noFeed
    obtain rfl := Option.some.inj (replaced.symm.trans isReplacement)
    exact ⟨nonempty, clean⟩
  · simp [reports.1] at isReplacement

end Reports

theorem diagnose_eq (rule : Rule) (path : Text) (finding : Finding) :
    rule.diagnose path finding =
      ⟨path, finding.span.range, rule.severity, some rule.code, finding.message,
        finding.replacement.map fun text =>
          ⟨if finding.span.range.spansLineBreak && !text.isEmpty then text ++ ['\n'] else text,
            finding.span.range⟩⟩ := by
  cases replaced : finding.replacement <;> simp only [diagnose, replaced] <;> rfl

end Rule

theorem Range.LiesOn.spansLineBreak_iff {lines : List Text} {range : Range}
    (lies : range.LiesOn lines) :
    range.spansLineBreak = true ↔ range.stop.line = range.start.line + 1 := by
  obtain ⟨lineIndex, line, start, -, -, starts, stops⟩ := lies
  rcases stops with next | ⟨stop, within, -⟩
  · simp [Range.spansLineBreak, starts, next]
  · simp [Range.spansLineBreak, starts, within]

theorem no_feed_of_mem_splitLines {source line : Text} (member : line ∈ splitLines source) :
    '\n' ∉ line := by
  obtain ⟨whole, isLine, rfl⟩ := List.mem_map.mp member
  exact (proper_of_mem_linesOf source whole isLine).no_feed

theorem Registry.mem_disable_iff {registry : Registry} {names : List Text} {rule : Rule} :
    rule ∈ (registry.disable names).1.rules ↔
      rule ∈ registry.rules ∧ ∀ name ∈ names, rule.answersTo name = false := by
  induction names generalizing registry with
  | nil => simp [disable]
  | cons name names ih =>
    change rule ∈ ((registry.without name).disable names).1.rules ↔ _
    simp only [ih, without, List.mem_filter, List.forall_mem_cons, Bool.not_eq_true', and_assoc]

theorem Registry.mem_forKind_builtins_iff [Pattern.Engine] {names : List Text} {kind : FileKind}
    {rule : Rule} :
    rule ∈ (builtins.disable names).1.forKind kind ↔
      rule ∈ builtinRules ∧ rule.kind = kind ∧ ∀ name ∈ names, rule.answersTo name = false := by
  rw [forKind, List.mem_filter, mem_disable_iff, rules_builtins, beq_iff_eq]
  tauto

theorem exists_finding_of_lint [Bibliography.Reader] {registry : Registry}
    {fileExists : Text → Bool} {path : Path} {source : Text} {diagnostics : List Diagnostic}
    (linted : lint registry fileExists path source = .ok diagnostics) {diagnostic : Diagnostic}
    (member : diagnostic ∈ diagnostics) :
    ∃ page : Page, page.lines = splitLines source ∧
      ∃ rule ∈ registry.forKind (FileKind.ofPath path), ∃ finding ∈ rule.findings page,
        diagnostic = rule.diagnose path finding := by
  simp only [lint] at linted
  split at linted
  · obtain rfl := Except.ok.inj linted
    simp at member
  · cases read : bibEntriesOf path (FileKind.ofPath path) source with
    | error cause => simp [read, bind, Except.bind] at linted
    | ok entries =>
      simp only [read, bind, Except.bind, pure, Except.pure, Except.ok.injEq] at linted
      rw [← linted, Registry.diagnose, List.mem_flatMap] at member
      obtain ⟨rule, inForce, checked⟩ := member
      obtain ⟨finding, found, rfl⟩ := List.mem_map.mp checked
      exact ⟨_, rfl, rule, inForce, finding, found, rfl⟩

theorem lint_reports [Bibliography.Reader] [Pattern.Engine] (names : List Text)
    (fileExists : Text → Bool) (path : Path) (source : Text) (diagnostics : List Diagnostic)
    (linted : lint (Registry.builtins.disable names).1 fileExists path source = .ok diagnostics)
    (diagnostic : Diagnostic) (member : diagnostic ∈ diagnostics) :
    diagnostic.path = path ∧ diagnostic.range.LiesOn (splitLines source) ∧
      (∃ rule ∈ Registry.builtinRules, rule.kind = FileKind.ofPath path ∧
        (∀ name ∈ names, rule.answersTo name = false) ∧
        diagnostic.code = some rule.code ∧ diagnostic.severity = rule.severity ∧
        diagnostic.suggestion.isSome = rule.fixable) ∧
      ∀ suggestion ∈ diagnostic.suggestion, suggestion.range = diagnostic.range ∧
        suggestion.text ≠ [] ∧
        (suggestion.text.getLast? = some '\n' ↔
          diagnostic.range.stop.line = diagnostic.range.start.line + 1) := by
  obtain ⟨page, lines, rule, inForce, finding, found, rfl⟩ := exists_finding_of_lint linted member
  obtain ⟨builtin, kind, enabled⟩ := Registry.mem_forKind_builtins_iff.mp inForce
  have reports := rule.reports_of_builtin builtin page found
  rw [lines] at reports
  have lies := reports.liesOn.range
  rw [rule.diagnose_eq]
  refine ⟨rfl, lies, ⟨rule, builtin, kind, enabled, rfl, rfl, ?_⟩, ?_⟩
  · rw [Option.isSome_map, reports.replacement_isSome]
  · intro suggestion isSuggestion
    obtain ⟨text, isReplacement, rfl⟩ := Option.map_eq_some_iff.mp isSuggestion
    obtain ⟨nonempty, clean⟩ :=
      reports.replacement_clean (fun _ => no_feed_of_mem_splitLines) text isReplacement
    have unended : text.getLast? ≠ some '\n' := fun feed => clean (List.mem_of_getLast? feed)
    refine ⟨rfl, ?_, ?_⟩
    · dsimp only
      split
      · simp
      · exact nonempty
    · rw [← lies.spansLineBreak_iff]
      by_cases spans : finding.span.range.spansLineBreak = true
      · simp [spans, nonempty]
      · simp [spans, unended]

theorem lint_reports_here :
    ∃ diagnostic suggestion, lint (Registry.builtins.disable ["GTN:004".toList]).1 (fun _ => false)
        "tutorial.md" "see\n[here]\n".toList = .ok [diagnostic] ∧
      diagnostic.suggestion = some suggestion ∧
      suggestion.range = ⟨⟨2, 1⟩, ⟨3, 1⟩⟩ ∧ suggestion.text.getLast? = some '\n' := by
  have markup : FileKind.ofPath ("tutorial.md" : Text) = .markup := by decide
  have alone : ((Registry.builtins.disable ["GTN:004".toList]).1.diagnose .markup
      ⟨"tutorial.md", splitLines "see\n[here]\n".toList, [], fun _ => false⟩).map
        (fun diagnostic => (diagnostic.range, diagnostic.suggestion.isSome)) =
      [(⟨⟨2, 1⟩, ⟨3, 1⟩⟩, true)] := by decide +kernel
  obtain ⟨diagnostic, isAlone, placed⟩ := List.map_eq_singleton_iff.mp alone
  obtain ⟨range, suggests⟩ := Prod.mk.inj placed
  obtain ⟨suggestion, suggested⟩ := Option.isSome_iff_exists.mp suggests
  have linted := (lint_markup_eq (Registry.builtins.disable ["GTN:004".toList]).1 (fun _ => false)
    markup "see\n[here]\n".toList).trans (congrArg Except.ok isAlone)
  obtain ⟨-, -, -, made⟩ := lint_reports ["GTN:004".toList] (fun _ => false) "tutorial.md"
    "see\n[here]\n".toList [diagnostic] linted diagnostic (List.mem_singleton_self _)
  obtain ⟨sameRange, -, ending⟩ := made suggestion suggested
  refine ⟨diagnostic, suggestion, linted, suggested, sameRange.trans range, ?_⟩
  rw [ending, range]

end CourseLint
