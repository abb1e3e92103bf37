import CourseLint.Proofs.FieldReports
import CourseLint.Proofs.ResolvedKeys
import Mathlib.Data.List.Nodup

set_option autoImplicit false

namespace CourseLint

open Text

theorem MissingField.message_inj {field other : MissingField}
    (same : field.message = other.message) : field = other := by
  cases field <;> cases other <;> first | rfl | exact absurd same (by decide)

section

variable [Pattern.Engine]

theorem Rule.mem_bibMissingFields_iff {page : Page} {source : Text}
    (lines : page.lines = splitLines source) {diagnostic : Diagnostic} :
    diagnostic ∈ bibMissingFields.check page ↔
      ∃ entry ∈ page.entries, (Pattern.entryHeader? entry.key).isSome = true ∧
        ∃ field, entry.Lacks field ∧
          ∃ lineIndex line, (splitLines source)[lineIndex]? = some line ∧
            LooksLikeHeader entry.key line ∧
            diagnostic = field.diagnostic page.path lineIndex line := by
  have looks_iff {key : Text} {lineIndex : Nat} {line : Text}
      (present : (splitLines source)[lineIndex]? = some line) :
      IsHeader key line ↔ LooksLikeHeader key line :=
    isHeader_iff_looksLikeHeader (no_feed_of_mem_splitLines (List.mem_of_getElem? present))
  rw [check_bibMissingFields, List.mem_map]
  constructor
  · rintro ⟨⟨entryIndex, field, lineIndex⟩, isPlace, rfl⟩
    obtain ⟨entry, line, isEntry, lacks, built, isLine, isHeader⟩ := mem_fieldPlaces_iff.mp isPlace
    have present := lines ▸ isLine
    refine ⟨entry, List.mem_of_getElem? isEntry, built, field, lacks, lineIndex, line, present,
      (looks_iff present).mp isHeader, ?_⟩
    rw [diagnosticAt_of_line isLine]
  · rintro ⟨entry, isEntry, built, field, lacks, lineIndex, line, present, looks, rfl⟩
    obtain ⟨entryIndex, atIndex⟩ := List.mem_iff_getElem?.mp isEntry
    have isLine : page.lines[lineIndex]? = some line := lines ▸ present
    refine ⟨(entryIndex, field, lineIndex), ?_, diagnosticAt_of_line isLine⟩
    exact mem_fieldPlaces_iff.mpr
      ⟨entry, line, atIndex, lacks, built, isLine, (looks_iff present).mpr looks⟩

def MissingField.ReportedOn (field : MissingField) (lineIndex : Nat)
    (diagnostics : List Diagnostic) : Prop :=
  ∃ diagnostic ∈ diagnostics, diagnostic.code = some ⟨"GTN:011"⟩ ∧
    diagnostic.message = field.message ∧ diagnostic.range.start = ⟨lineIndex + 1, 1⟩

theorem Rule.reportedOn_iff {page : Page} {source : Text} (lines : page.lines = splitLines source)
    {lineIndex : Nat} {line : Text} (present : (splitLines source)[lineIndex]? = some line)
    (field : MissingField) :
    field.ReportedOn lineIndex (bibMissingFields.check page) ↔
      ∃ entry ∈ page.entries, entry.Lacks field ∧
        (Pattern.entryHeader? entry.key).isSome = true ∧ LooksLikeHeader entry.key line := by
  constructor
  · rintro ⟨diagnostic, reported, -, sameMessage, sameStart⟩
    obtain ⟨entry, isEntry, built, found, lacks, foundIndex, foundLine, isLine, looks, rfl⟩ :=
      (mem_bibMissingFields_iff lines).mp reported
    obtain rfl := MissingField.message_inj sameMessage
    obtain rfl : foundIndex = lineIndex := Nat.succ.inj (congrArg Position.line sameStart)
    obtain rfl := Option.some.inj (present.symm.trans isLine)
    exact ⟨entry, isEntry, lacks, built, looks⟩
  · rintro ⟨entry, isEntry, lacks, built, looks⟩
    have reported := (mem_bibMissingFields_iff lines).mpr
      ⟨entry, isEntry, built, field, lacks, lineIndex, line, present, looks, rfl⟩
    exact ⟨_, reported, rfl, rfl, rfl⟩

theorem diagnose_bibliography (page : Page) :
    Registry.builtins.diagnose .bibliography page = Rule.bibMissingFields.check page := by
  have inForce : Registry.builtins.forKind .bibliography = [Rule.bibMissingFields] := by rfl
  rw [Registry.diagnose, inForce, List.flatMap_singleton]

theorem mem_bibMissingFields_of_diagnose {names : List Text} {page : Page} {diagnostic : Diagnostic}
    (member : diagnostic ∈ (Registry.builtins.disable names).1.diagnose .bibliography page) :
    diagnostic ∈ Rule.bibMissingFields.check page := by
  obtain ⟨rule, inForce, reported⟩ := List.mem_flatMap.mp member
  obtain ⟨builtin, isKind, -⟩ := Registry.mem_forKind_builtins_iff.mp inForce
  rw [← diagnose_bibliography]
  refine List.mem_flatMap.mpr ⟨rule, ?_, reported⟩
  exact List.mem_filter.mpr ⟨builtin, beq_iff_eq.mpr isKind⟩

end

theorem lint_bibliography [Bibliography.Reader] {path : Path} {text : Text}
    {source : Bibliography.Source} (registry : Registry) (fileExists : Text → Bool)
    (isBibliography : FileKind.ofPath path = .bibliography)
    (read : Bibliography.Reader.read text = .ok source) :
    lint registry fileExists path text =
      .ok (registry.diagnose .bibliography
        ⟨path, splitLines text, source.bibEntries, fileExists⟩) := by
  have parsed : Bibliography.parse text = .ok source.bibEntries := by
    rw [Bibliography.parse, read]
    rfl
  simp only [lint, isBibliography, bibEntriesOf, parsed]
  rfl

theorem exists_lineStart {text line : Text} {lineIndex : Nat}
    (present : (splitLines text)[lineIndex]? = some line) :
    ∃ start, (lineStarts text)[lineIndex]? = some start := by
  rw [splitLines, List.getElem?_map] at present
  obtain ⟨whole, isWhole, rfl⟩ := Option.map_eq_some_iff.mp present
  have within := (List.getElem?_eq_some_iff.mp (getElem?_namedLines isWhole)).1
  exact ⟨_, getElem?_lineStarts_eq within⟩

theorem lacking_entry_is_reported [Bibliography.Reader] [Bibliography.LawfulReader]
    [Pattern.Engine] (fileExists : Text → Bool) (path : Path) (text : Text)
    (source : Bibliography.Source) (isBibliography : FileKind.ofPath path = .bibliography)
    (read : Bibliography.Reader.read text = .ok source)
    (ends : Bibliography.Reader.Ends source) :
    ∃ diagnostics, lint Registry.builtins fileExists path text = .ok diagnostics ∧
      source.bibEntries.map BibEntry.key = source.entries.map Bibliography.Entry.key ∧
      ∀ written entry, (written, entry) ∈ source.entries.zip source.bibEntries →
        (∃ heading, written.HeadedBy text heading) ∧
        ∀ heading, written.HeadedBy text heading →
          ∃ line, (splitLines text)[heading.lineIndex]? = some line ∧
            (heading.Plain → (Pattern.entryHeader? entry.key).isSome = true →
              ∀ field, entry.Lacks field → field.ReportedOn heading.lineIndex diagnostics) ∧
            ∀ field, field.ReportedOn heading.lineIndex diagnostics ↔
              ∃ other ∈ source.bibEntries, other.Lacks field ∧
                (Pattern.entryHeader? other.key).isSome = true ∧
                LooksLikeHeader other.key line := by
  let page : Page := ⟨path, splitLines text, source.bibEntries, fileExists⟩
  have lines : page.lines = splitLines text := rfl
  refine ⟨Rule.bibMissingFields.check page, ?_, source.bibEntries_keys ends, ?_⟩
  · rw [lint_bibliography _ _ isBibliography read, diagnose_bibliography]
  intro written entry member
  obtain ⟨isWritten, isEntry⟩ := List.of_mem_zip member
  refine ⟨Bibliography.LawfulReader.headed read written isWritten, ?_⟩
  intro heading headed
  obtain ⟨line, present⟩ := headed.exists_line
  have reported_iff := Rule.reportedOn_iff lines present
  refine ⟨line, present, ?_, reported_iff⟩
  intro plain built field lacks
  have looks := headed.looksLikeHeader plain present
  rw [← Bibliography.Source.key_of_mem_zip ends member] at looks
  exact (reported_iff field).mpr ⟨entry, isEntry, lacks, built, looks⟩

def untitledText : Text :=
  "@misc\x7bA,\n title=\x7bt\x7d,\n url=\x7bu\x7d\n\x7d\n@misc\x7bB,\n url=\x7bu\x7d\n\x7d\n"

def untitledSource : Bibliography.Source where
  entries := [
    ⟨0, "misc", "A", [⟨"title", [.written "t"]⟩, ⟨"url", [.written "u"]⟩]⟩,
    ⟨32, "misc", "B", [⟨"url", [.written "u"]⟩]⟩]
  abbreviations := []

theorem read_untitledText : Bibliography.Reader.read untitledText = .ok untitledSource := by
  decide +kernel

theorem ends_untitledSource : Bibliography.Reader.Ends untitledSource := by
  change Bibliography.isAcyclic untitledSource = true
  decide +kernel

theorem lacking_entry_is_reported_untitled :
    Bibliography.LawfulReader ∧ FileKind.ofPath ("r.bib" : Text) = .bibliography ∧
      Bibliography.Reader.read untitledText = .ok untitledSource ∧
      Bibliography.Reader.Ends untitledSource ∧
      ∃ diagnostics,
        lint Registry.builtins (fun _ => false) "r.bib" untitledText = .ok diagnostics ∧
        MissingField.title.ReportedOn 4 diagnostics := by
  have isBibliography : FileKind.ofPath ("r.bib" : Text) = .bibliography := by decide
  obtain ⟨diagnostics, linted, -, entries⟩ := lacking_entry_is_reported (fun _ => false) "r.bib"
    untitledText untitledSource isBibliography read_untitledText ends_untitledSource
  obtain ⟨-, headings⟩ := entries ⟨32, "misc", "B", [⟨"url", [.written "u"]⟩]⟩
    ⟨"B", none, some "u", none⟩ (by decide +kernel)
  let heading : Bibliography.Heading :=
    ⟨untitledText.take 32, [], '{', [], [], "\n url=\x7bu\x7d\n\x7d\n"⟩
  have noGap : ∀ c ∈ ([] : Text), isBlankChar c = true := List.forall_mem_nil _
  obtain ⟨line, -, reported, -⟩ := headings heading
    ⟨by decide +kernel, by decide +kernel, List.all_eq_true.mp rfl, List.all_eq_true.mp rfl,
      .inl rfl, noGap, noGap, noGap⟩
  have plain : heading.Plain :=
    ⟨List.all_eq_true.mp (by decide +kernel), List.not_mem_nil, rfl, rfl, rfl⟩
  have built : (Pattern.entryHeader? "B").isSome = true := by
    rw [Pattern.entryHeader?_eq]
    rfl
  exact ⟨inferInstance, isBibliography, read_untitledText, ends_untitledSource, diagnostics, linted,
    reported plain built .title rfl⟩

def blankText : Text := "@misc\x7b K,\n title=\x7bt\x7d\n\x7d\n"

def blankSource : Bibliography.Source := ⟨[⟨0, "misc", "K", [⟨"title", [.written "t"]⟩]⟩], []⟩

theorem lacking_entry_unreported_behind_blank :
    Bibliography.Reader.read blankText = .ok blankSource ∧
      (∃ entry ∈ blankSource.bibEntries, entry.Lacks .doiAndUrl) ∧
      lint Registry.builtins (fun _ => false) "r.bib" blankText = .ok [] := by
  have read : Bibliography.Reader.read blankText = .ok blankSource := by decide +kernel
  have silent : Rule.bibMissingFields.check
      ⟨"r.bib", splitLines blankText, blankSource.bibEntries, fun _ => false⟩ = [] := by
    decide +kernel
  refine ⟨read, by decide +kernel, ?_⟩
  rw [lint_bibliography _ _ (by decide) read, diagnose_bibliography, silent]

theorem report_lies_on_header [Bibliography.Reader] [Bibliography.LawfulReader] [Pattern.Engine]
    (names : List Text) (fileExists : Text → Bool) (path : Path) (text : Text)
    (source : Bibliography.Source) (isBibliography : FileKind.ofPath path = .bibliography)
    (read : Bibliography.Reader.read text = .ok source)
    (ends : Bibliography.Reader.Ends source) :
    ∃ diagnostics,
      lint (Registry.builtins.disable names).1 fileExists path text = .ok diagnostics ∧
      ∀ diagnostic ∈ diagnostics, ∃ entry ∈ source.bibEntries, ∃ field, entry.Lacks field ∧
        ∃ lineIndex line start, (splitLines text)[lineIndex]? = some line ∧
          (lineStarts text)[lineIndex]? = some start ∧
          diagnostic = field.diagnostic path lineIndex line ∧ LooksLikeHeader entry.key line ∧
          ∀ (parts : HeaderParts entry.key line) (written : Bibliography.Entry) (other : BibEntry),
            (written, other) ∈ source.entries.zip source.bibEntries →
            ∀ heading, written.HeadedBy text heading →
              written.opening heading = start + width parts.front →
              heading.lineIndex = lineIndex ∧ written.key = entry.key ∧
                ((source.entries.map Bibliography.Entry.key).Nodup → other.Lacks field) := by
  refine ⟨_, lint_bibliography _ _ isBibliography read, ?_⟩
  intro diagnostic member
  have reported := mem_bibMissingFields_of_diagnose member
  obtain ⟨entry, isEntry, -, field, lacks, lineIndex, line, present, looks, rfl⟩ :=
    (Rule.mem_bibMissingFields_iff rfl).mp reported
  obtain ⟨start, isStart⟩ := exists_lineStart present
  refine ⟨entry, isEntry, field, lacks, lineIndex, line, start, present, isStart, rfl, looks, ?_⟩
  intro parts written other isOther heading headed opens
  have clean := Bibliography.key_clean_of_mem ends read isEntry
  obtain ⟨sameLine, sameKey⟩ := headed.of_header clean present isStart parts opens
  refine ⟨sameLine, sameKey, ?_⟩
  intro distinct
  rw [← source.bibEntries_keys ends] at distinct
  have keys : other.key = entry.key :=
    (Bibliography.Source.key_of_mem_zip ends isOther).trans sameKey
  have same := List.inj_on_of_nodup_map distinct (List.of_mem_zip isOther).2 isEntry keys
  exact same ▸ lacks

theorem report_lies_on_header_untitled :
    Bibliography.LawfulReader ∧ FileKind.ofPath ("r.bib" : Text) = .bibliography ∧
      Bibliography.Reader.read untitledText = .ok untitledSource ∧
      Bibliography.Reader.Ends untitledSource ∧
      ∃ diagnostic, lint (Registry.builtins.disable []).1 (fun _ => false) "r.bib" untitledText =
          .ok [diagnostic] ∧
        ∃ entry ∈ untitledSource.bibEntries, ∃ field, entry.Lacks field ∧
          ∃ lineIndex line, (splitLines untitledText)[lineIndex]? = some line ∧
            diagnostic = field.diagnostic "r.bib" lineIndex line ∧
            LooksLikeHeader entry.key line := by
  have isBibliography : FileKind.ofPath ("r.bib" : Text) = .bibliography := by decide
  obtain ⟨diagnostics, linted, located⟩ := report_lies_on_header [] (fun _ => false) "r.bib"
    untitledText untitledSource isBibliography read_untitledText ends_untitledSource
  have alone : Rule.bibMissingFields.check
      ⟨"r.bib", splitLines untitledText, untitledSource.bibEntries, fun _ => false⟩ =
        [MissingField.title.diagnostic "r.bib" 4 "@misc\x7bB,"] := by
    decide +kernel
  have same : diagnostics = [MissingField.title.diagnostic "r.bib" 4 "@misc\x7bB,"] := by
    have checked :=
      lint_bibliography Registry.builtins (fun _ => false) isBibliography read_untitledText
    rw [diagnose_bibliography, alone] at checked
    exact Except.ok.inj (linted.symm.trans checked)
  subst same
  obtain ⟨entry, isEntry, field, lacks, lineIndex, line, start, present, -, placed, looks, -⟩ :=
    located _ (List.mem_singleton_self _)
  exact ⟨inferInstance, isBibliography, read_untitledText, ends_untitledSource, _, linted, entry,
    isEntry, field, lacks, lineIndex, line, present, placed, looks⟩

def quotingText : Text :=
  "@misc\x7bA, title=\x7bt\x7d, url=\x7bu\x7d, note=\x7b\x7bB,\x7d\x7d\x7d\n".toList ++
    "@misc\x7bB, title=\x7bt\x7d\x7d\n".toList

def quotingSource : Bibliography.Source where
  entries := [
    ⟨0, "misc", "A", [⟨"title", [.written "t"]⟩, ⟨"url", [.written "u"]⟩,
      ⟨"note", [.written "\x7bB,\x7d"]⟩]⟩,
    ⟨42, "misc", "B", [⟨"title", [.written "t"]⟩]⟩]
  abbreviations := []

theorem report_lies_on_mention :
    Bibliography.Reader.read quotingText = .ok quotingSource ∧
      (lineStarts quotingText)[1]? = some 42 ∧
      (∀ pair ∈ quotingSource.entries.zip quotingSource.bibEntries,
        pair.1.start < 42 → ∀ field, ¬ pair.2.Lacks field) ∧
      ∃ diagnostics, lint Registry.builtins (fun _ => false) "r.bib" quotingText =
          .ok diagnostics ∧
        MissingField.doiAndUrl.ReportedOn 0 diagnostics := by
  have read : Bibliography.Reader.read quotingText = .ok quotingSource := by decide +kernel
  have complete : ∀ pair ∈ quotingSource.entries.zip quotingSource.bibEntries,
      pair.1.start < 42 → pair.2.missing = [] := by
    decide +kernel
  refine ⟨read, by decide +kernel, ?_, _, lint_bibliography _ _ (by decide) read, ?_⟩
  · intro pair member starts field lacks
    have missing := BibEntry.mem_missing_iff.mpr lacks
    simp [complete pair member starts] at missing
  · rw [diagnose_bibliography, MissingField.ReportedOn]
    decide +kernel

end CourseLint
