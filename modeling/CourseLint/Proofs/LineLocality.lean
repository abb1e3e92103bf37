import CourseLint.Proofs.Reports

set_option autoImplicit false

namespace CourseLint

open Text

def Span.shift (count : Nat) (span : Span) : Span :=
  { span with lineIndex := span.lineIndex + count }

def Range.shift (count : Nat) (range : Range) : Range :=
  ⟨⟨range.start.line + count, range.start.column⟩, ⟨range.stop.line + count, range.stop.column⟩⟩

def Occurrence.shift (count : Nat) (occurrence : Occurrence) : Occurrence :=
  { occurrence with lineIndex := occurrence.lineIndex + count }

def Finding.shift (count : Nat) (finding : Finding) : Finding :=
  { finding with span := finding.span.shift count }

def Diagnostic.shift (count : Nat) (diagnostic : Diagnostic) : Diagnostic :=
  { diagnostic with
    range := diagnostic.range.shift count
    suggestion := diagnostic.suggestion.map fun suggestion =>
      ⟨suggestion.text, suggestion.range.shift count⟩ }

theorem Span.range_shift (count : Nat) (span : Span) :
    (span.shift count).range = span.range.shift count := by
  simp only [range, shift, Range.shift]
  by_cases atEnd : span.stop = width span.line
  · simp only [atEnd, if_true, Nat.add_right_comm _ count]
  · simp only [atEnd, if_false, Nat.add_right_comm _ count]

theorem Range.spansLineBreak_shift (count : Nat) (range : Range) :
    (range.shift count).spansLineBreak = range.spansLineBreak := by
  simp [spansLineBreak, shift]

theorem Rule.diagnose_shift (rule : Rule) (path : Text) (count : Nat) (finding : Finding) :
    rule.diagnose path (finding.shift count) = (rule.diagnose path finding).shift count := by
  simp only [diagnose_eq, Finding.shift, Diagnostic.shift, Span.range_shift,
    Range.spansLineBreak_shift, Option.map_map, Function.comp_def]

namespace Occurrence

variable (count : Nat) (occurrence : Occurrence)

theorem groupSpan?_shift (index : Nat) :
    (occurrence.shift count).groupSpan? index =
      (occurrence.groupSpan? index).map (Span.shift count) := by
  simp only [groupSpan?, shift]
  cases occurrence.found.captures.find? (·.index == index) <;> rfl

@[simp] theorem group_shift (index : Nat) :
    (occurrence.shift count).group index = occurrence.group index := by
  simp only [group, groupSpan?_shift, Option.map_map]
  rfl

theorem replaceGroup?_shift (message text : Text) (index : Nat) :
    (occurrence.shift count).replaceGroup? message index text =
      (occurrence.replaceGroup? message index text).map (Finding.shift count) := by
  simp only [replaceGroup?, groupSpan?_shift, Option.map_map]
  rfl

end Occurrence

def LineByLine {α : Type} (shift : Nat → α → α) (scan : List Text → List α) : Prop :=
  ∀ above below, scan (above ++ below) = scan above ++ (scan below).map (shift above.length)

namespace LineByLine

variable {α β : Type} {shift : Nat → α → α} {shift' : Nat → β → β} {scan : List Text → List α}

theorem filterMap (lineByLine : LineByLine shift scan) {report : α → Option β}
    (moves : ∀ count found, report (shift count found) = (report found).map (shift' count)) :
    LineByLine shift' fun lines => (scan lines).filterMap report := by
  intro above below
  simp only [lineByLine above below, List.filterMap_append, List.filterMap_map, List.map_filterMap]
  congr 2
  exact funext (moves above.length)

theorem map (lineByLine : LineByLine shift scan) {report : α → β}
    (moves : ∀ count found, report (shift count found) = shift' count (report found)) :
    LineByLine shift' fun lines => (scan lines).map report := by
  simp only [← List.filterMap_eq_map]
  exact lineByLine.filterMap fun count found => congrArg some (moves count found)

theorem filter (lineByLine : LineByLine shift scan) {accepts : α → Bool}
    (blind : ∀ count found, accepts (shift count found) = accepts found) :
    LineByLine shift fun lines => (scan lines).filter accepts := by
  intro above below
  simp only [lineByLine above below, List.filter_append, List.filter_map, Function.comp_def, blind]

end LineByLine

namespace Pattern

variable {accepts : Occurrence → Bool}

theorem occurrences_shift (pattern : Pattern) (lineIndex count : Nat) (line : Text) :
    pattern.occurrences (lineIndex + count) line =
      (pattern.occurrences lineIndex line).map (Occurrence.shift count) := by
  simp only [occurrences, List.map_map]
  rfl

theorem lineByLine_firstOccurrencesWhere (pattern : Pattern)
    (blind : ∀ count occurrence, accepts (Occurrence.shift count occurrence) = accepts occurrence) :
    LineByLine Occurrence.shift (pattern.firstOccurrencesWhere accepts) := by
  intro above below
  have unseen : accepts ∘ Occurrence.shift above.length = accepts := funext (blind above.length)
  have moved : below.zipIdx (0 + above.length) =
      below.zipIdx.map fun entry => (entry.1, 0 + above.length + entry.2) :=
    List.zipIdx_eq_map_add
  simp only [firstOccurrencesWhere, List.zipIdx_append, List.filterMap_append, moved,
    List.filterMap_map, List.map_filterMap]
  congr 2
  funext entry
  simp only [Function.comp_apply, Nat.zero_add, Nat.add_comm above.length]
  rw [occurrences_shift, List.find?_map, unseen]

theorem lineByLine_firstOccurrences (pattern : Pattern) :
    LineByLine Occurrence.shift pattern.firstOccurrences :=
  pattern.lineByLine_firstOccurrencesWhere fun _ _ => rfl

end Pattern

section Reports

variable {accepts : Occurrence → Bool} {text : Occurrence → Text}

theorem lineByLine_advise {scan : List Text → List Occurrence}
    (lineByLine : LineByLine Occurrence.shift scan)
    (blind : ∀ count occurrence, text (Occurrence.shift count occurrence) = text occurrence) :
    LineByLine Finding.shift fun lines =>
      (scan lines).map fun occurrence => occurrence.advise (text occurrence) := by
  refine lineByLine.map fun count occurrence => ?_
  rw [blind]
  rfl

theorem lineByLine_replace {scan : List Text → List Occurrence} {message : Text}
    (lineByLine : LineByLine Occurrence.shift scan)
    (blind : ∀ count occurrence, text (Occurrence.shift count occurrence) = text occurrence) :
    LineByLine Finding.shift fun lines =>
      (scan lines).map fun occurrence => occurrence.replace message (text occurrence) := by
  refine lineByLine.map fun count occurrence => ?_
  rw [blind]
  rfl

theorem lineByLine_replaceGroup? {scan : List Text → List Occurrence} {message : Text} {index : Nat}
    (lineByLine : LineByLine Occurrence.shift scan)
    (blind : ∀ count occurrence, text (Occurrence.shift count occurrence) = text occurrence) :
    LineByLine Finding.shift fun lines =>
      (scan lines).filterMap fun occurrence =>
        occurrence.replaceGroup? message index (text occurrence) := by
  refine lineByLine.filterMap fun count occurrence => ?_
  rw [blind, Occurrence.replaceGroup?_shift]

end Reports

namespace Rule

open Pattern (lineByLine_firstOccurrences lineByLine_firstOccurrencesWhere)

def delimiterScans : List (List Text → List Finding) :=
  [missingOpenBrace, missingOpenPercent, missingCloseBrace, missingClosePercent]

theorem delimiterScans_eq : delimiterScans = Delimiter.scanned.map Delimiter.scan := rfl

theorem lineByLine_delimiterScans {scan : List Text → List Finding}
    (member : scan ∈ delimiterScans) : LineByLine Finding.shift scan := by
  simp only [delimiterScans, List.mem_cons, List.not_mem_nil, or_false] at member
  rcases member with rfl | rfl | rfl | rfl
  · exact lineByLine_replaceGroup? (lineByLine_firstOccurrences _) (by simp)
  · exact lineByLine_replaceGroup? (lineByLine_firstOccurrences _) (by simp)
  · exact lineByLine_replaceGroup? (lineByLine_firstOccurrences _) (by simp)
  · exact lineByLine_replace (lineByLine_firstOccurrences _) (by simp)

theorem lineByLine_findings [Pattern.Engine] {rule : Rule} (builtin : rule ∈ Registry.builtinRules)
    (markup : rule.kind = .markup) (single : rule.id ≠ callDelimiters.id) (page : Page) :
    LineByLine Finding.shift fun lines => rule.findings { page with lines := lines } := by
  simp only [Registry.builtinRules, List.mem_cons, List.not_mem_nil, or_false] at builtin
  rcases builtin with rfl | rfl | rfl | rfl | rfl | rfl | rfl | rfl | rfl | rfl | rfl | rfl
  · exact lineByLine_advise (lineByLine_firstOccurrences _) fun _ _ => rfl
  · exact lineByLine_advise (lineByLine_firstOccurrences _) fun _ _ => rfl
  · exact lineByLine_replaceGroup? (lineByLine_firstOccurrences _) (by simp)
  · exact lineByLine_replaceGroup? (lineByLine_firstOccurrences _) (by simp)
  · exact lineByLine_replace (lineByLine_firstOccurrencesWhere _ (by simp)) fun _ _ => rfl
  · exact lineByLine_replace (lineByLine_firstOccurrences _) fun _ _ => rfl
  · exact absurd rfl single
  · have absent : LineByLine Occurrence.shift fun lines =>
        (Pattern.snippet.firstOccurrences lines).filter fun occurrence =>
          !page.fileExists (occurrence.group 1) :=
      (lineByLine_firstOccurrences _).filter (by simp)
    exact lineByLine_advise absent (by simp)
  · exact lineByLine_replace (lineByLine_firstOccurrences _) (by simp)
  · exact lineByLine_replaceGroup? (lineByLine_firstOccurrences _) (by simp)
  · exact lineByLine_advise (lineByLine_firstOccurrences _) fun _ _ => rfl
  · exact FileKind.noConfusion markup

end Rule

structure LineLocal (check : List Text → List Diagnostic) : Prop where
  append : ∀ above below,
    check (above ++ below) = check above ++ (check below).map (Diagnostic.shift above.length)
  earlier : ∀ above below,
    (check (above ++ below)).filter (·.range.start.line ≤ above.length) = check above

theorem LineByLine.lineLocal {check : List Text → List Diagnostic}
    (lineByLine : LineByLine Diagnostic.shift check)
    (onLine : ∀ lines, ∀ diagnostic ∈ check lines,
      0 < diagnostic.range.start.line ∧ diagnostic.range.start.line ≤ lines.length) :
    LineLocal check where
  append := lineByLine
  earlier := by
    intro above below
    have kept : (check above).filter (·.range.start.line ≤ above.length) = check above := by
      refine List.filter_eq_self.mpr fun diagnostic member => ?_
      exact decide_eq_true (onLine above diagnostic member).2
    have dropped : ((check below).map (Diagnostic.shift above.length)).filter
        (·.range.start.line ≤ above.length) = [] := by
      refine List.filter_eq_nil_iff.mpr fun moved member inside => ?_
      obtain ⟨diagnostic, found, rfl⟩ := List.mem_map.mp member
      have positive := (onLine below diagnostic found).1
      have above' : diagnostic.range.start.line + above.length ≤ above.length :=
        of_decide_eq_true inside
      omega
    rw [lineByLine above below, List.filter_append, kept, dropped, List.append_nil]

theorem LineByLine.onLine {scan : List Text → List Finding}
    (lineByLine : LineByLine Finding.shift scan)
    (lies : ∀ lines, ∀ finding ∈ scan lines, finding.LiesOn lines)
    (above below : List Text) (line : Text) :
    (scan (above ++ line :: below)).filter (·.span.lineIndex == above.length) =
      (scan [line]).map (Finding.shift above.length) := by
  have within (lines : List Text) (finding : Finding) (found : finding ∈ scan lines) :
      finding.span.lineIndex < lines.length := by
    obtain ⟨lineIndex, _, _, _, present, span⟩ := lies lines finding found
    rw [span]
    exact (List.getElem?_eq_some_iff.mp present).1
  have noneAbove : (scan above).filter (·.span.lineIndex == above.length) = [] := by
    refine List.filter_eq_nil_iff.mpr fun finding found => ?_
    simpa using Nat.ne_of_lt (within above finding found)
  have here : ((scan [line]).map (Finding.shift above.length)).filter
      (·.span.lineIndex == above.length) = (scan [line]).map (Finding.shift above.length) := by
    refine List.filter_eq_self.mpr fun moved inLine => ?_
    obtain ⟨finding, found, rfl⟩ := List.mem_map.mp inLine
    simpa [Finding.shift, Span.shift] using within [line] finding found
  have noneBelow : (((scan below).map (Finding.shift [line].length)).map
      (Finding.shift above.length)).filter (·.span.lineIndex == above.length) = [] := by
    rw [List.map_map]
    refine List.filter_eq_nil_iff.mpr fun moved inBelow => ?_
    obtain ⟨finding, -, rfl⟩ := List.mem_map.mp inBelow
    simp [Finding.shift, Span.shift]
  have parts : above ++ line :: below = above ++ ([line] ++ below) := rfl
  rw [parts, lineByLine above, lineByLine [line], List.map_append, List.filter_append,
    List.filter_append, noneAbove, here, noneBelow, List.nil_append, List.append_nil]

namespace Rule

theorem lineLocal_of_findings (rule : Rule) (path : Text) {scan : List Text → List Finding}
    (lineByLine : LineByLine Finding.shift scan)
    (lies : ∀ lines, ∀ finding ∈ scan lines, finding.LiesOn lines) :
    LineLocal fun lines => (scan lines).map (rule.diagnose path) := by
  refine (lineByLine.map (rule.diagnose_shift path)).lineLocal fun lines diagnostic member => ?_
  obtain ⟨finding, found, rfl⟩ := List.mem_map.mp member
  obtain ⟨lineIndex, _, _, _, present, span⟩ := lies lines finding found
  have within := (List.getElem?_eq_some_iff.mp present).1
  rw [rule.diagnose_eq, span]
  exact ⟨Nat.succ_pos lineIndex, within⟩

theorem liesOn_of_delimiterScans {scan : List Text → List Finding} (member : scan ∈ delimiterScans)
    (lines : List Text) (finding : Finding) (found : finding ∈ scan lines) :
    finding.LiesOn lines := by
  obtain ⟨delimiter, -, rfl⟩ := List.mem_map.mp (delimiterScans_eq ▸ member)
  exact (repair_of_scan found).1.liesOn

theorem scan_onLine (delimiter : Delimiter) (above below : List Text) (line : Text) :
    (delimiter.scan (above ++ line :: below)).filter (·.span.lineIndex == above.length) =
      (delimiter.scan [line]).map (Finding.shift above.length) := by
  have member : delimiter.scan ∈ delimiterScans :=
    delimiterScans_eq ▸ List.mem_map_of_mem delimiter.mem_scanned
  exact (lineByLine_delimiterScans member).onLine (liesOn_of_delimiterScans member) above below line

theorem makes_shift {delimiter : Delimiter} {lineIndex : Nat} {line : Text} {finding : Finding}
    (count : Nat) (makes : delimiter.Makes lineIndex line finding) :
    delimiter.Makes (lineIndex + count) line (finding.shift count) := by
  obtain ⟨head, left, right, tail, parts, lacks, span, replaced⟩ := makes
  refine ⟨head, left, right, tail, parts, lacks, ?_, replaced⟩
  rw [Finding.shift, span]
  rfl

theorem filter_check (rule : Rule) (page : Page) (lineIndex : Nat) :
    (rule.check page).filter (·.range.start.line == lineIndex + 1) =
      ((rule.findings page).filter (·.span.lineIndex == lineIndex)).map
        (rule.diagnose page.path) := by
  have sameLine (finding : Finding) :
      ((rule.diagnose page.path finding).range.start.line == lineIndex + 1) =
        (finding.span.lineIndex == lineIndex) := by
    rw [diagnose_eq, Bool.eq_iff_iff]
    simp [Span.range]
  simp only [check, List.filter_map, Function.comp_def, sameLine]

theorem check_callDelimiters_onLine (page : Page) {above below : List Text} {line : Text}
    (lines : page.lines = above ++ line :: below) :
    (callDelimiters.check page).filter (·.range.start.line == above.length + 1) =
      (Delimiter.scanned.flatMap (·.scan [line])).map fun finding =>
        callDelimiters.diagnose page.path (finding.shift above.length) := by
  simp only [filter_check, findings_callDelimiters, List.filter_flatMap, lines, scan_onLine,
    List.map_flatMap, List.map_map, Function.comp_def]

theorem check_atLine [Pattern.Engine] {rule : Rule} (builtin : rule ∈ Registry.builtinRules)
    (markup : rule.kind = .markup) (single : rule.id ≠ callDelimiters.id) (page : Page)
    {lineIndex : Nat} {line : Text} (present : page.lines[lineIndex]? = some line) :
    (rule.check page).filter (·.range.start.line == lineIndex + 1) =
      (rule.findings { page with lines := [line] }).map fun finding =>
        rule.diagnose page.path (finding.shift lineIndex) := by
  obtain ⟨within, here⟩ := List.getElem?_eq_some_iff.mp present
  have split : page.lines = page.lines.take lineIndex ++ line :: page.lines.drop (lineIndex + 1) := by
    rw [← here, List.getElem_cons_drop, List.take_append_drop]
  have above : (page.lines.take lineIndex).length = lineIndex :=
    List.length_take_of_le (Nat.le_of_lt within)
  have lies (lines : List Text) (finding : Finding)
      (found : finding ∈ rule.findings { page with lines := lines }) : finding.LiesOn lines :=
    (reports_of_builtin builtin _ found).liesOn
  have onLine := (lineByLine_findings builtin markup single page).onLine lies
    (page.lines.take lineIndex) (page.lines.drop (lineIndex + 1)) line
  rw [← split, above] at onLine
  rw [filter_check, onLine, List.map_map]
  rfl

theorem check_lineLocal [Pattern.Engine] (page : Page) :
    (∀ rule ∈ Registry.builtinRules, rule.kind = .markup → rule.id ≠ ("jekyll-braces" : Text) →
      LineLocal fun lines => rule.check { page with lines := lines }) ∧
    (∀ scan ∈ delimiterScans,
      LineLocal fun lines => (scan lines).map (callDelimiters.diagnose page.path)) ∧
    callDelimiters ∈ Registry.builtinRules ∧ callDelimiters.id = ("jekyll-braces" : Text) ∧
    ∀ lines, callDelimiters.check { page with lines := lines } =
      delimiterScans.flatMap fun scan => (scan lines).map (callDelimiters.diagnose page.path) := by
  refine ⟨?_, ?_, by simp [Registry.builtinRules], rfl, ?_⟩
  · intro rule builtin markup single
    refine rule.lineLocal_of_findings page.path (lineByLine_findings builtin markup single page) ?_
    intro lines finding found
    exact (reports_of_builtin builtin _ found).liesOn
  · intro scan member
    exact callDelimiters.lineLocal_of_findings page.path (lineByLine_delimiterScans member)
      (liesOn_of_delimiterScans member)
  · intro lines
    simp only [check, findings_callDelimiters, delimiterScans_eq, List.map_flatMap, List.flatMap_map]

theorem check_lineLocal_here :
    linkText ∈ Registry.builtinRules ∧ linkText.kind = .markup ∧
      linkText.id ≠ ("jekyll-braces" : Text) ∧
      (linkText.check ⟨"tutorial.md", ["[here]".toList, "[link] or".toList], [], fun _ => false⟩).map
        Diagnostic.range = [⟨⟨1, 1⟩, ⟨2, 1⟩⟩, ⟨⟨2, 1⟩, ⟨2, 7⟩⟩] := by
  have builtin : linkText ∈ Registry.builtinRules := by simp [Registry.builtinRules]
  have single : linkText.id ≠ ("jekyll-braces" : Text) := by decide
  have lineLocal :=
    (check_lineLocal ⟨"tutorial.md", [], [], fun _ => false⟩).1 linkText builtin rfl single
  have parts := lineLocal.append ["[here]".toList] ["[link] or".toList]
  refine ⟨builtin, rfl, single, ?_⟩
  refine (congrArg (List.map Diagnostic.range) parts).trans ?_
  decide +kernel

end Rule

end CourseLint
