import CourseLint.Proofs.Accounts
import CourseLint.Proofs.CallNeighbours
import CourseLint.Proofs.Insertions
import CourseLint.Proofs.LostDelimiters

set_option autoImplicit false

namespace CourseLint

open Text

def Finding.edit? (source path : Text) (count : Nat) (finding : Finding) : Option Edit :=
  (Rule.callDelimiters.diagnose path (finding.shift count)).suggestion.bind
    (Edit.ofSuggestion? source)

def Edit.forLine (source path : Text) (lineIndex : Nat) (line : Text) : List Edit :=
  (Delimiter.scanned.flatMap (·.scan [line])).filterMap (Finding.edit? source path lineIndex)

theorem Edit.mem_forLine_iff {source path line : Text} {lineIndex : Nat} {edit : Edit} :
    edit ∈ Edit.forLine source path lineIndex line ↔
      ∃ delimiter : Delimiter, ∃ finding ∈ delimiter.scan [line],
        finding.edit? source path lineIndex = some edit := by
  simp only [forLine, List.mem_filterMap, List.mem_flatMap]
  constructor
  · rintro ⟨finding, ⟨delimiter, -, found⟩, placed⟩
    exact ⟨delimiter, finding, found, placed⟩
  · rintro ⟨delimiter, finding, found, placed⟩
    exact ⟨finding, ⟨delimiter, delimiter.mem_scanned, found⟩, placed⟩

theorem Edit.usable_of_mem_forLine {source path line : Text} {lineIndex : Nat} {edit : Edit}
    (member : edit ∈ Edit.forLine source path lineIndex line) : edit.Usable source := by
  obtain ⟨_, finding, _, placed⟩ := mem_forLine_iff.mp member
  obtain ⟨suggestion, -, isEdit⟩ := Option.bind_eq_some_iff.mp placed
  exact usable_of_ofSuggestion? isEdit

theorem Edit.forward_forLine {source path line : Text} {lineIndex : Nat} :
    ∀ edit ∈ Edit.forLine source path lineIndex line, edit.start ≤ edit.stop :=
  fun _ member => (usable_of_mem_forLine member).1

structure Edit.Puts (source path : Text) (above : List Line) (line : Line) (edit : Edit)
    (delimiter : Delimiter) (head left right tail : Text) : Prop where
  parts : line.text = head ++ (left ++ right) ++ tail
  lacks : delimiter.Lacks head left right tail
  reported : ∃ finding ∈ delimiter.scan [line.text],
    finding.edit? source path above.length = some edit ∧ finding.span.start = width head
  start_eq : edit.start = width (above.flatMap Line.source ++ head)
  le_stop : width (above.flatMap Line.source ++ (head ++ (left ++ right))) ≤ edit.stop
  stop_eq : tail ≠ [] →
    edit.stop = width (above.flatMap Line.source ++ (head ++ (left ++ right)))
  grows : edit.Grows source ⟨width (above.flatMap Line.source ++ (head ++ left)),
    width (above.flatMap Line.source ++ (head ++ left)), [delimiter.char]⟩

theorem exists_cut {first second before part after : Text}
    (same : first ++ second = before ++ (part ++ after)) (begun : width before < width first)
    (unfinished : width first < width (before ++ part)) :
    ∃ early late, part = early ++ late ∧ early ≠ [] ∧ late ≠ [] ∧ first = before ++ early ∧
      second = late ++ after := by
  have isPrefix : first <+: before ++ (part ++ after) := ⟨second, same⟩
  obtain ⟨early, rfl⟩ := prefix_of_width_le (List.prefix_append _ _) isPrefix (Nat.le_of_lt begun)
  rw [List.prefix_append_right_inj] at isPrefix
  rw [width_append, width_append] at unfinished
  obtain ⟨late, rfl⟩ := prefix_of_width_le isPrefix (List.prefix_append _ _) (by omega)
  refine ⟨early, late, rfl, ?_, ?_, rfl, by simpa using same⟩
  · rintro rfl
    simp at begun
  · rintro rfl
    simp at unfinished

section OneLine

variable {source path : Text} {above below : List Line} {line : Line} {delimiter : Delimiter}

section Puts

variable {edit edit' : Edit} {head left right tail head' left' right' tail' : Text}

theorem Edit.Puts.mem_forLine
    (puts : edit.Puts source path above line delimiter head left right tail) :
    edit ∈ Edit.forLine source path above.length line.text := by
  obtain ⟨finding, found, placed, -⟩ := puts.reported
  exact mem_forLine_iff.mpr ⟨delimiter, finding, found, placed⟩

theorem Edit.Puts.unique
    (puts : edit.Puts source path above line delimiter head left right tail)
    (puts' : edit'.Puts source path above line delimiter head' left' right' tail') :
    edit = edit' := by
  obtain ⟨finding, found, placed, -⟩ := puts.reported
  obtain ⟨finding', found', placed', -⟩ := puts'.reported
  obtain ⟨option, single⟩ := delimiter.scan_singleton line.text
  rw [single, Option.mem_toList] at found found'
  obtain rfl : finding = finding' := Option.some.inj (found.symm.trans found')
  exact Option.some.inj (placed.symm.trans placed')

end Puts

variable (lines : linesOf source = above ++ line :: below)
include lines

theorem exists_puts (path : Text) {finding : Finding}
    (found : finding ∈ delimiter.scan [line.text]) :
    ∃ edit head left right tail, finding.edit? source path above.length = some edit ∧
      finding.span.start = width head ∧
      edit.Puts source path above line delimiter head left right tail := by
  obtain ⟨piece, left, right, rfl, rfl, begins, covered, lacks, repairs⟩ :=
    (Delimiter.makes_of_mem_scan found).repairs lines path
  refine ⟨_, piece.head, left, right, piece.tail, repairs.placed, begins, ?_, lacks,
    ⟨finding, found, repairs.placed, begins⟩, rfl, ?_, ?_, ?_⟩
  · rw [piece.text_eq, covered]
  · simp only [Piece.edit, Piece.front, Piece.replaced, covered, width_append]
    omega
  · intro inside
    simp [Piece.edit, Piece.front, Piece.replaced, Piece.swallowed, covered, inside]
  · refine ⟨piece.front, left, right ++ piece.swallowed, piece.behind, [delimiter.char], ?_, ?_, ?_⟩
    · conv => lhs; rw [piece.source_eq, Piece.replaced, covered]
      simp
    · simp [Piece.edit, Piece.replaced, covered]
    · simp [Piece.front]

theorem exists_puts_of_mem_forLine {edit : Edit}
    (member : edit ∈ Edit.forLine source path above.length line.text) :
    ∃ delimiter head left right tail,
      edit.Puts source path above line delimiter head left right tail := by
  obtain ⟨delimiter, finding, found, placed⟩ := Edit.mem_forLine_iff.mp member
  obtain ⟨edit', head, left, right, tail, placed', -, puts⟩ := exists_puts lines path found
  obtain rfl := Option.some.inj (placed.symm.trans placed')
  exact ⟨delimiter, head, left, right, tail, puts⟩

theorem repair_onLine (page : Page) (pageLines : page.lines = splitLines source) {repaired : Repair}
    (result : Edit.applyAll source (Edit.forLine source page.path above.length line.text) =
      some repaired) :
    repair source ((Rule.callDelimiters.check page).filter
      (·.range.start.line == above.length + 1)) = some (repaired, 0) := by
  have builtin : [Rule.callDelimiters].Sublist Registry.builtinRules :=
    List.singleton_sublist.mpr (by simp [Registry.builtinRules])
  have onLine := Rule.check_onLine lines page pageLines
  have repairable := repairable_of_rules builtin page pageLines
  rw [List.flatMap_singleton] at repairable
  refine repair_eq ?_ result
  rw [(repairable.sublist List.filter_sublist).ofDiagnostics_eq, onLine, Edit.suggested,
    List.filterMap_map]
  rfl

theorem exists_insertions (path : Text) :
    ∃ insertions : List Edit,
      Edit.splice source (Edit.applied source (Edit.forLine source path above.length line.text)) =
        Edit.splice source insertions ∧
      ∀ insertion ∈ insertions, insertion.start = insertion.stop ∧
        ∃ edit ∈ Edit.applied source (Edit.forLine source path above.length line.text),
          ∃ delimiter head left right tail,
            edit.Puts source path above line delimiter head left right tail ∧
            insertion.start = width (above.flatMap Line.source ++ (head ++ left)) := by
  have told : ∀ edit ∈ Edit.applied source (Edit.forLine source path above.length line.text),
      ∃ insertion, edit.Grows source insertion ∧ ∃ delimiter head left right tail,
        edit.Puts source path above line delimiter head left right tail ∧
        insertion.start = width (above.flatMap Line.source ++ (head ++ left)) := by
    intro edit taken
    obtain ⟨delimiter, head, left, right, tail, puts⟩ :=
      exists_puts_of_mem_forLine lines (Edit.mem_of_mem_applied taken)
    exact ⟨_, puts.grows, delimiter, head, left, right, tail, puts, rfl⟩
  choose! place grows told using told
  refine ⟨_, Edit.splice_eq_of_grows grows (Edit.applied_ordered Edit.forward_forLine), ?_⟩
  refine List.forall_mem_map.mpr fun edit member => ⟨(grows edit member).place.1, edit, member, ?_⟩
  exact told edit member

theorem exists_images (path : Text) {parts : List Text} (isLine : line.text = parts.flatten) :
    ∃ (repaired : Repair) (images : List Text) (rest : Text),
      Edit.applyAll source (Edit.forLine source path above.length line.text) = some repaired ∧
      repaired.text =
        (above ++ ⟨images.flatten ++ rest, line.ending⟩ :: below).flatMap Line.source ∧
      images.length = parts.length ∧
      ∀ before part after, parts = before ++ part :: after →
        (∃ image, images[before.length]? = some image ∧ part <:+ image) ∨
        ∃ edit ∈ Edit.applied source (Edit.forLine source path above.length line.text),
          ∃ delimiter head left right tail early late,
            edit.Puts source path above line delimiter head left right tail ∧
            part = early ++ late ∧ early ≠ [] ∧ late ≠ [] ∧ head ++ left = before.flatten ++ early ∧
            right ++ tail = late ++ after.flatten := by
  obtain ⟨insertions, spliced, told⟩ := exists_insertions lines path
  have onLine : ∀ insertion ∈ insertions, width (above.flatMap Line.source) ≤ insertion.start ∧
      insertion.start ≤ width (above.flatMap Line.source ++ line.text) := by
    intro insertion member
    obtain ⟨-, edit, -, delimiter, head, left, right, tail, puts, put⟩ := told insertion member
    rw [put, puts.parts]
    simp only [width_append]
    omega
  have whole : source = above.flatMap Line.source ++ line.text ++
      (line.ending.text ++ below.flatMap Line.source) := by
    rw [← flatMap_source_linesOf source, lines]
    simp [Line.source]
  have woven := Edit.splice_line (fun insertion member => (told insertion member).1)
    (above.flatMap Line.source) line.text (line.ending.text ++ below.flatMap Line.source) onLine
  rw [← whole, ← spliced] at woven
  refine ⟨_, Edit.wovenParts insertions (width (above.flatMap Line.source)) parts,
    Edit.insertedAt insertions (width (above.flatMap Line.source ++ line.text)),
    Edit.applyAll_of_usable fun _ member => Edit.usable_of_mem_forLine member, ?_,
    Edit.length_wovenParts _ _, ?_⟩
  · rw [Edit.flatten_wovenParts, ← isLine, woven]
    simp [Line.source]
  · rintro before part after rfl
    rw [Edit.getElem?_wovenParts]
    by_cases outside : ∀ insertion ∈ insertions,
        insertion.start ≤ width (above.flatMap Line.source) + width before.flatten ∨
          width (above.flatMap Line.source) + width before.flatten + width part ≤ insertion.start
    · exact .inl ⟨_, rfl, Edit.suffix_woven _ _ outside⟩
    · simp only [not_forall, not_or] at outside
      obtain ⟨insertion, member, inside⟩ := outside
      obtain ⟨-, edit, taken, delimiter, head, left, right, tail, puts, put⟩ :=
        told insertion member
      have same : head ++ left ++ (right ++ tail) = before.flatten ++ (part ++ after.flatten) := by
        rw [← List.flatten_cons, ← List.flatten_append, ← isLine, puts.parts]
        simp
      rw [put, width_append] at inside
      obtain ⟨early, late, cut⟩ := exists_cut same (by omega) (by
        rw [width_append before.flatten]
        omega)
      exact .inr ⟨edit, taken, delimiter, head, left, right, tail, early, late, puts, cut⟩

end OneLine

end CourseLint
