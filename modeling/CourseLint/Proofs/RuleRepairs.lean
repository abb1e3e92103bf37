import CourseLint.Proofs.DelimiterScans

set_option autoImplicit false

namespace CourseLint

open Text

namespace Finding

def IsRepair (lines : List Text) (finding : Finding) : Prop :=
  ∃ lineIndex head covered tail replacement,
    lines[lineIndex]? = some (head ++ covered ++ tail) ∧
    finding.span = ⟨lineIndex, head ++ covered ++ tail, width head, width (head ++ covered)⟩ ∧
    finding.replacement = some replacement ∧
    Rewrites head covered tail replacement

def Inserts (finding : Finding) : Prop :=
  finding.replacement ≠ none ∧ finding.span.start = finding.span.stop

def Apart (one other : Finding) : Prop :=
  one.Inserts → other.Inserts → one.span.lineIndex ≠ other.span.lineIndex

theorem not_inserts_of_covered {finding : Finding} {lineIndex : Nat} {line head covered : Text}
    (span : finding.span = ⟨lineIndex, line, width head, width (head ++ covered)⟩)
    (nonempty : covered ≠ []) : ¬ finding.Inserts := by
  rintro ⟨-, noWidth⟩
  simp only [span, width_append] at noWidth
  have empty : width covered = 0 := by omega
  exact nonempty ((width_eq_zero_iff _).mp empty)

end Finding

section Groups

variable {lines : List Text} {lineIndex index : Nat} {line tail : Text} {found : Match}

theorem repair_of_replaceGroup? {message text : Text} {finding : Finding} (head covered : Text)
    (replaced : Occurrence.replaceGroup? message index text ⟨lineIndex, line, found⟩ = some finding)
    (capture : found.captures.find? (·.index == index) =
      some ⟨index, width head, width (head ++ covered)⟩)
    (present : lines[lineIndex]? = some line) (parts : line = head ++ covered ++ tail)
    (rewrites : Rewrites head covered tail text) :
    finding.IsRepair lines ∧ (covered ≠ [] → ¬ finding.Inserts) := by
  rw [Occurrence.replaceGroup?, Occurrence.groupSpan?_eq capture] at replaced
  obtain rfl := Option.some.inj replaced
  refine ⟨⟨lineIndex, head, covered, tail, text, ?_, ?_, rfl, rewrites⟩, ?_⟩
  · rw [present, parts]
  · rw [parts]
  · exact Finding.not_inserts_of_covered rfl

end Groups

theorem repair_of_replace {lines : List Text} {lineIndex : Nat} {head covered tail : Text}
    {captures : List Capture} (message : Text) {text : Text}
    (present : lines[lineIndex]? = some (head ++ covered ++ tail)) (nonempty : covered ≠ [])
    (rewrites : Rewrites head covered tail text) :
    let finding := Occurrence.replace message text
      ⟨lineIndex, head ++ covered ++ tail, ⟨width head, width (head ++ covered), captures⟩⟩
    finding.IsRepair lines ∧ ¬ finding.Inserts :=
  ⟨⟨lineIndex, head, covered, tail, text, present, rfl, rfl, rewrites⟩,
    Finding.not_inserts_of_covered rfl nonempty⟩

namespace Rule

variable {page : Page} {lines : List Text} {finding : Finding}

theorem repair_of_externalSlidesLink (member : finding ∈ externalSlidesLink.findings page) :
    finding.IsRepair page.lines ∧ ¬ finding.Inserts := by
  obtain ⟨_, front, _, after, _, present, fits, replaced⟩ := Pattern.exists_fit_of_mem_filterMap member
  obtain ⟨site, address, rfl, colon, rfl⟩ := Pattern.externalSlidesLink_parts fits
  rw [Occurrence.group_eq (front ++ ['('] ++ site) address
    ([')'] ++ after) rfl (by simp)] at replaced
  have rewrites := Rewrites.externalLink front site address [] [] ([')'] ++ after) colon (.inl rfl)
  rw [List.append_nil, List.append_nil] at rewrites
  obtain ⟨repair, wide⟩ := repair_of_replaceGroup? (front ++ ['('])
    (site ++ address) replaced (by simp) present (by simp) rewrites
  exact ⟨repair, wide fun empty => by simp_all⟩

theorem repair_of_externalTutorialLink (member : finding ∈ externalTutorialLink.findings page) :
    finding.IsRepair page.lines ∧ ¬ finding.Inserts := by
  obtain ⟨_, front, _, after, _, present, fits, replaced⟩ := Pattern.exists_fit_of_mem_filterMap member
  obtain ⟨site, address, suffix, rfl, colon, rfl⟩ := Pattern.externalTutorialLink_parts fits
  rw [Occurrence.group_eq (front ++ ['('] ++ site) address
    (suffix ++ [')'] ++ after) rfl (by simp)] at replaced
  have rewrites := Rewrites.externalLink front site address suffix ['.', 'm', 'd']
    ([')'] ++ after) colon (.inr rfl)
  obtain ⟨repair, wide⟩ := repair_of_replaceGroup? (front ++ ['('])
    (site ++ address ++ suffix) replaced (by simp) present (by simp) rewrites
  exact ⟨repair, wide fun empty => by simp_all⟩

theorem repair_of_doiCitation (member : finding ∈ doiCitation.findings page) :
    finding.IsRepair page.lines ∧ ¬ finding.Inserts := by
  obtain ⟨_, front, _, after, _, present, fits, rfl⟩ := Pattern.exists_fit_of_mem_map member
  obtain ⟨address, rfl, colon⟩ := Pattern.doiLink_parts fits
  exact repair_of_replace _ present (by simp) (.citation front address after colon)

theorem repair_of_linkText (member : finding ∈ linkText.findings page) :
    finding.IsRepair page.lines ∧ ¬ finding.Inserts := by
  obtain ⟨_, front, _, after, _, present, fits, rfl⟩ := Pattern.exists_fit_of_mem_map member
  obtain ⟨c, rest, rfl, vague⟩ := Pattern.badLinkText_parts fits
  exact repair_of_replace _ present (by simp) (.linkText front c rest after vague)

theorem repair_of_scan {delimiter : Delimiter} (member : finding ∈ delimiter.scan lines) :
    finding.IsRepair lines ∧ (delimiter ≠ .closeBrace → ¬ finding.Inserts) := by
  obtain ⟨lineIndex, _, present, head, left, right, tail, rfl, lacks, span, replaced⟩ :=
    Delimiter.lacks_of_mem_scan member
  exact ⟨⟨lineIndex, head, left ++ right, tail, _, present, span, replaced, lacks.rewrites⟩,
    fun other => Finding.not_inserts_of_covered span (lacks.covered_ne_nil other)⟩

theorem repair_of_toolUrl (member : finding ∈ toolUrl.findings page) :
    finding.IsRepair page.lines ∧ ¬ finding.Inserts := by
  obtain ⟨_, front, _, after, _, present, fits, rfl⟩ := Pattern.exists_fit_of_mem_map member
  obtain ⟨opening, name, address, id, closing, rfl, colon, rfl⟩ := Pattern.toolUrl_parts fits
  rw [Occurrence.group_eq (front ++ (['{'] ++ opening)) name
    (address ++ id ++ closing ++ after) rfl (by simp),
    Occurrence.group_eq (front ++ (['{'] ++ opening ++ name ++ address)) id
      (closing ++ after) rfl (by simp)]
  exact repair_of_replace _ present (by simp)
    (.toolLink front opening name address id closing after colon)

theorem repair_of_boxTitle (member : finding ∈ boxTitle.findings page) :
    finding.IsRepair page.lines ∧ ¬ finding.Inserts := by
  obtain ⟨_, front, _, after, _, present, fits, replaced⟩ := Pattern.exists_fit_of_mem_filterMap member
  obtain ⟨markers, opening, icon, between, title, rfl, rfl, quoted, rfl⟩ :=
    Pattern.boxTitle_parts fits
  rw [Occurrence.group_eq (markers ++ (['#'] ++ opening)) icon
    (between ++ title ++ after) rfl (by simp),
    Occurrence.group_eq (markers ++ (['#'] ++ opening ++ icon ++ between))
      title after rfl (by simp)] at replaced
  obtain ⟨repair, wide⟩ := repair_of_replaceGroup? markers
    (['#'] ++ opening ++ icon ++ between ++ title) replaced rfl present (by simp)
    (.boxTitle markers opening icon between title after quoted)
  exact ⟨repair, wide (by simp)⟩

theorem findings_callDelimiters (page : Page) :
    callDelimiters.findings page = Delimiter.scanned.flatMap (·.scan page.lines) := by
  change missingOpenBrace page.lines ++ missingOpenPercent page.lines ++
    missingCloseBrace page.lines ++ missingClosePercent page.lines = _
  simp only [Delimiter.scanned, List.flatMap_cons, List.flatMap_nil, List.append_assoc,
    List.append_nil, Delimiter.scan]

theorem mem_findings_callDelimiters_iff :
    finding ∈ callDelimiters.findings page ↔
      ∃ delimiter : Delimiter, finding ∈ delimiter.scan page.lines := by
  rw [findings_callDelimiters, List.mem_flatMap]
  exact exists_congr fun delimiter => and_iff_right delimiter.mem_scanned

theorem repair_of_callDelimiters (member : finding ∈ callDelimiters.findings page) :
    finding.IsRepair page.lines := by
  obtain ⟨delimiter, scanned⟩ := mem_findings_callDelimiters_iff.mp member
  exact (repair_of_scan scanned).1

theorem pairwise_apart_of_not_inserts {findings : List Finding}
    (wide : ∀ finding ∈ findings, ¬ finding.Inserts) : findings.Pairwise Finding.Apart :=
  List.pairwise_of_forall_mem_list fun one member _ _ inserts _ => absurd inserts (wide one member)

theorem pairwise_apart_missingCloseBrace (lines : List Text) :
    (missingCloseBrace lines).Pairwise Finding.Apart := by
  refine List.pairwise_filterMap.mpr ?_
  refine (Pattern.pairwise_firstOccurrencesWhere _ _ lines).imp ?_
  intro one other earlier finding found other' found' _ _
  obtain ⟨span, spanned, rfl⟩ := Option.map_eq_some_iff.mp found
  obtain ⟨span', spanned', rfl⟩ := Option.map_eq_some_iff.mp found'
  obtain ⟨_, _, onLine⟩ := Option.bind_eq_some_iff.mp spanned
  obtain ⟨_, _, onLine'⟩ := Option.bind_eq_some_iff.mp spanned'
  obtain rfl := Option.some.inj onLine
  obtain rfl := Option.some.inj onLine'
  exact Nat.ne_of_lt earlier

theorem pairwise_apart_callDelimiters (page : Page) :
    (callDelimiters.findings page).Pairwise Finding.Apart := by
  have wide {delimiter : Delimiter} (other : delimiter ≠ .closeBrace) :
      ∀ finding ∈ delimiter.scan page.lines, ¬ finding.Inserts :=
    fun _ member => (repair_of_scan member).2 other
  rw [findings_callDelimiters, List.pairwise_flatMap]
  refine ⟨fun delimiter _ => ?_, ?_⟩
  · by_cases closes : delimiter = .closeBrace
    · rw [closes]
      exact pairwise_apart_missingCloseBrace _
    · exact pairwise_apart_of_not_inserts (wide closes)
  · -- Of two different scans at most one is the scan for the closing brace.
    have distinct : Delimiter.scanned.Nodup := by decide
    refine distinct.imp fun {delimiter delimiter'} distinct finding member finding' member' => ?_
    intro inserts inserts'
    by_cases closes : delimiter = .closeBrace
    · exact absurd inserts' (wide (fun closes' => distinct (closes.trans closes'.symm)) _ member')
    · exact absurd inserts (wide closes _ member)

theorem no_replacement_of_mem_map {finding : Finding} {occurrences : List Occurrence}
    {report : Occurrence → Finding} (advises : ∀ occurrence, (report occurrence).replacement = none)
    (member : finding ∈ occurrences.map report) : finding.replacement = none := by
  obtain ⟨occurrence, -, rfl⟩ := List.mem_map.mp member
  exact advises occurrence

variable [Pattern.Engine]

theorem repair_of_builtin {rule : Rule} (builtin : rule ∈ Registry.builtinRules) (page : Page) :
    rule = callDelimiters ∨ ∀ finding ∈ rule.findings page,
      finding.replacement = none ∨ (finding.IsRepair page.lines ∧ ¬ finding.Inserts) := by
  simp only [Registry.builtinRules, List.mem_cons, List.not_mem_nil, or_false] at builtin
  rcases builtin with rfl | rfl | rfl | rfl | rfl | rfl | rfl | rfl | rfl | rfl | rfl | rfl
  · exact .inr fun finding member => .inl (no_replacement_of_mem_map (fun _ => rfl) member)
  · exact .inr fun finding member => .inl (no_replacement_of_mem_map (fun _ => rfl) member)
  · exact .inr fun finding member => .inr (repair_of_externalSlidesLink member)
  · exact .inr fun finding member => .inr (repair_of_externalTutorialLink member)
  · exact .inr fun finding member => .inr (repair_of_doiCitation member)
  · exact .inr fun finding member => .inr (repair_of_linkText member)
  · exact .inl rfl
  · exact .inr fun finding member => .inl (no_replacement_of_mem_map (fun _ => rfl) member)
  · exact .inr fun finding member => .inr (repair_of_toolUrl member)
  · exact .inr fun finding member => .inr (repair_of_boxTitle member)
  · exact .inr fun finding member => .inl (no_replacement_of_mem_map (fun _ => rfl) member)
  · refine .inr fun finding member => .inl ?_
    obtain ⟨_, _, inSpans⟩ := List.mem_flatMap.mp member
    obtain ⟨_, _, rfl⟩ := List.mem_map.mp inSpans
    rfl

theorem not_inserts_of_other {rule : Rule} (builtin : rule ∈ Registry.builtinRules) (page : Page)
    (other : rule ≠ callDelimiters) : ∀ finding ∈ rule.findings page, ¬ finding.Inserts := by
  intro finding member
  rcases rule.repair_of_builtin builtin page with same | repair
  · exact absurd same other
  · rcases repair finding member with noReplacement | ⟨-, wide⟩
    · exact fun inserts => inserts.1 noReplacement
    · exact wide

theorem pairwise_apart_findings {rule : Rule} (builtin : rule ∈ Registry.builtinRules)
    (page : Page) : (rule.findings page).Pairwise Finding.Apart := by
  by_cases delimiters : rule = callDelimiters
  · rw [delimiters]
    exact pairwise_apart_callDelimiters page
  · exact pairwise_apart_of_not_inserts (rule.not_inserts_of_other builtin page delimiters)

theorem apart_of_two_rules {rule rule' : Rule} (builtin : rule ∈ Registry.builtinRules)
    (builtin' : rule' ∈ Registry.builtinRules) (distinct : rule.id ≠ rule'.id) (page : Page)
    {finding finding' : Finding} (member : finding ∈ rule.findings page)
    (member' : finding' ∈ rule'.findings page) : finding.Apart finding' := by
  intro inserts inserts'
  by_cases delimiters : rule = callDelimiters
  · have other : rule' ≠ callDelimiters := by
      rintro rfl
      exact distinct (by rw [delimiters])
    exact absurd inserts' (rule'.not_inserts_of_other builtin' page other finding' member')
  · exact absurd inserts (rule.not_inserts_of_other builtin page delimiters finding member)

def builtinIds : List Text :=
  ["no-toc", "youtube-embed", "external-slides-link", "external-tutorial-link", "doi-citation",
    "link-text", "jekyll-braces", "missing-snippet", "tool-url", "box-title", "new-tab-link",
    "bib-missing-fields"].map String.toList

theorem ids_builtinRules : Registry.builtinRules.map Rule.id = builtinIds := rfl

theorem nodup_ids_builtinRules : (Registry.builtinRules.map Rule.id).Nodup := by
  rw [ids_builtinRules]
  decide +kernel

end Rule

end CourseLint
