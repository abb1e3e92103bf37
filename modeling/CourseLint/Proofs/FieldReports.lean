import CourseLint.Proofs.HeaderLines

set_option autoImplicit false

namespace CourseLint

open Text

def BibEntry.Lacks (entry : BibEntry) : MissingField → Prop
  | .doiAndUrl => entry.doi = none ∧ entry.url = none
  | .title => entry.title = none

instance (entry : BibEntry) (field : MissingField) : Decidable (entry.Lacks field) :=
  match field with
  | .doiAndUrl => inferInstanceAs (Decidable (_ ∧ _))
  | .title => inferInstanceAs (Decidable (_ = _))

theorem BibEntry.mem_missing_iff {entry : BibEntry} {field : MissingField} :
    field ∈ entry.missing ↔ entry.Lacks field := by
  cases field <;> simp [missing, Lacks]

def MissingField.diagnostic (field : MissingField) (path : Path) (lineIndex : Nat) (line : Text) :
    Diagnostic :=
  ⟨path, (Span.wholeLine lineIndex line).range, .error, some ⟨"GTN:011"⟩, field.message, none⟩

def MissingField.Before (field other : MissingField) : Prop :=
  field = .doiAndUrl ∧ other = .title

theorem BibEntry.pairwise_missing (entry : BibEntry) :
    entry.missing.Pairwise MissingField.Before := by
  rw [missing]
  split <;> split <;> simp [MissingField.Before]

theorem Pattern.matchesOf_entryHeader_iff {key line : Text} :
    (entryHeader key).matchesOf line ≠ [] ↔ IsHeader key line := by
  rw [(anchored_entryHeader key).matchesOf_eq, ← isSome_matchAt_entryHeader_iff]
  cases (entryHeader key).matchAt 0 line <;> simp

namespace Rule

def diagnosticAt (page : Page) : Nat × MissingField × Nat → Diagnostic
  | (_, field, lineIndex) =>
    field.diagnostic page.path lineIndex (page.lines.getD lineIndex [])

variable {page : Page} {entryIndex lineIndex : Nat} {field : MissingField}

theorem diagnosticAt_of_line {line : Text} (isLine : page.lines[lineIndex]? = some line) :
    diagnosticAt page (entryIndex, field, lineIndex) =
      field.diagnostic page.path lineIndex line := by
  rw [diagnosticAt, List.getD_eq_getElem?_getD, isLine, Option.getD_some]

variable [Pattern.Engine]

def fieldPlaces (page : Page) : List (Nat × MissingField × Nat) :=
  page.entries.zipIdx.flatMap fun (entry, entryIndex) =>
    entry.missing.flatMap fun field =>
      (headerSpans entry.key page.lines).map fun span => (entryIndex, field, span.lineIndex)

theorem mem_fieldPlaces_iff :
    (entryIndex, field, lineIndex) ∈ fieldPlaces page ↔
      ∃ entry line, page.entries[entryIndex]? = some entry ∧ entry.Lacks field ∧
        (Pattern.entryHeader? entry.key).isSome = true ∧
        page.lines[lineIndex]? = some line ∧ IsHeader entry.key line := by
  simp only [fieldPlaces, List.mem_flatMap, List.mem_map, Prod.exists, Prod.mk.injEq,
    List.mk_mem_zipIdx_iff_getElem?, BibEntry.mem_missing_iff, mem_headerSpans_iff]
  constructor
  · rintro ⟨entry, _, isEntry, _, lacks, _, ⟨built, _, line, isLine, isHeader, rfl⟩, rfl, rfl, rfl⟩
    exact ⟨entry, line, isEntry, lacks, built, isLine, isHeader⟩
  · rintro ⟨entry, line, isEntry, lacks, built, isLine, isHeader⟩
    exact ⟨entry, entryIndex, isEntry, field, lacks, _,
      ⟨built, lineIndex, line, isLine, isHeader, rfl⟩, rfl, rfl, rfl⟩

theorem pairwise_headerSpans (key : Text) (lines : List Text) :
    (headerSpans key lines).Pairwise fun one other => one.lineIndex < other.lineIndex := by
  rw [headerSpans_eq]
  split
  · rw [List.pairwise_map]
    exact (Pattern.pairwise_zipIdx lines).filter _
  · exact List.Pairwise.nil

theorem pairwise_fieldPlaces (page : Page) :
    (fieldPlaces page).Pairwise
      (Prod.Lex (· < ·) (Prod.Lex MissingField.Before (· < ·))) := by
  rw [fieldPlaces, List.pairwise_flatMap]
  constructor
  · rintro ⟨entry, entryIndex⟩ -
    rw [List.pairwise_flatMap]
    constructor
    · intro field _
      rw [List.pairwise_map]
      apply (pairwise_headerSpans entry.key page.lines).imp
      exact fun above => .right _ (.right _ above)
    · apply entry.pairwise_missing.imp
      intro field other before place isPlace place' isPlace'
      obtain ⟨span, -, rfl⟩ := List.mem_map.mp isPlace
      obtain ⟨span', -, rfl⟩ := List.mem_map.mp isPlace'
      exact .right _ (.left _ _ before)
  · apply (Pattern.pairwise_zipIdx page.entries).imp
    intro one other before place isPlace place' isPlace'
    obtain ⟨field, -, inField⟩ := List.mem_flatMap.mp isPlace
    obtain ⟨span, -, rfl⟩ := List.mem_map.mp inField
    obtain ⟨field', -, inField'⟩ := List.mem_flatMap.mp isPlace'
    obtain ⟨span', -, rfl⟩ := List.mem_map.mp inField'
    exact .left _ _ before

theorem findings_bibMissingFields (page : Page) :
    bibMissingFields.findings page =
      page.entries.flatMap fun entry => entry.missing.flatMap fun field =>
        (headerSpans entry.key page.lines).map (⟨·, field.message, none⟩) := by
  change (BibEntry.missingOf page.entries).flatMap _ = _
  rw [BibEntry.missingOf, List.flatMap_assoc]
  simp only [List.flatMap_map]

theorem check_bibMissingFields (page : Page) :
    bibMissingFields.check page = (fieldPlaces page).map (diagnosticAt page) := by
  have reports (key : Text) (field : MissingField) (entryIndex : Nat) :
      ((headerSpans key page.lines).map (⟨·, field.message, none⟩)).map
          (bibMissingFields.diagnose page.path) =
        ((headerSpans key page.lines).map fun span => (entryIndex, field, span.lineIndex)).map
          (diagnosticAt page) := by
    rw [List.map_map, List.map_map]
    apply List.map_congr_left
    intro span member
    obtain ⟨-, lineIndex, line, isLine, -, rfl⟩ := mem_headerSpans_iff.mp member
    exact (diagnosticAt_of_line isLine).symm
  rw [check, findings_bibMissingFields, fieldPlaces]
  conv => lhs; rw [← List.zipIdx_map_fst 0 page.entries]
  simp only [List.map_flatMap, List.flatMap_map]
  apply List.flatMap_congr
  intro entry _
  apply List.flatMap_congr
  intro field _
  exact reports entry.1.key field entry.2

end Rule

theorem missing_fields_are_reported_in_order [Pattern.Engine] (page : Page) :
    (∀ key, Pattern.entryHeader? key =
      if Pattern.Engine.builds (Pattern.headerExpression key) then some (Pattern.entryHeader key)
      else none) ∧
    (∀ key line, (Pattern.entryHeader key).matchesOf line ≠ [] ↔ IsHeader key line) ∧
      ∃ places : List (Nat × MissingField × Nat),
        Rule.bibMissingFields.check page =
          places.map (fun (_, field, lineIndex) =>
            field.diagnostic page.path lineIndex (page.lines.getD lineIndex [])) ∧
        places.Pairwise (Prod.Lex (· < ·) (Prod.Lex MissingField.Before (· < ·))) ∧
        ∀ entryIndex field lineIndex, (entryIndex, field, lineIndex) ∈ places ↔
          ∃ entry line, page.entries[entryIndex]? = some entry ∧ entry.Lacks field ∧
            (Pattern.entryHeader? entry.key).isSome = true ∧
            page.lines[lineIndex]? = some line ∧ IsHeader entry.key line := by
  refine ⟨Pattern.entryHeader?_eq, fun key line => Pattern.matchesOf_entryHeader_iff, ?_⟩
  refine ⟨Rule.fieldPlaces page, Rule.check_bibMissingFields page, Rule.pairwise_fieldPlaces page,
    ?_⟩
  exact fun entryIndex field lineIndex => Rule.mem_fieldPlaces_iff

end CourseLint
