import CourseLint.Bibliography.Resolved
import CourseLint.Proofs.Reports

set_option autoImplicit false

namespace CourseLint

open Text

namespace Pattern

def Foremost (text front line : Text) : Prop :=
  ∀ other rest, line = other ++ text ++ rest → width front ≤ width other

theorem exists_first_literal (text front after : Text) :
    ∃ found, ((literal text).matchesOf (front ++ text ++ after)).head? = some found ∧
      found.start ≤ width front := by
  have fits : (literal text).Fits ([] ++ front) text after [] := by simp
  rw [List.append_assoc]
  exact exists_head?_matchesFrom fits

theorem literal_of_mem_matchesOf {text line : Text} {found : Match}
    (member : found ∈ (literal text).matchesOf line) :
    ∃ front after, line = front ++ text ++ after ∧
      found = ⟨width front, width (front ++ text), []⟩ := by
  obtain ⟨front, covered, after, captures, isLine, fits, isFound⟩ :=
    exists_fit_of_mem_matchesOf member
  obtain ⟨rfl, rfl⟩ := (fits_literal _ _ _ _ _).mp fits
  exact ⟨front, after, isLine, isFound⟩

theorem head?_matchesOf_literal_iff {text line : Text} {found : Match} :
    ((literal text).matchesOf line).head? = some found ↔
      ∃ front after, line = front ++ text ++ after ∧ Foremost text front line ∧
        found = ⟨width front, width (front ++ text), []⟩ := by
  constructor
  · intro isFirst
    obtain ⟨front, after, isLine, rfl⟩ := literal_of_mem_matchesOf (List.mem_of_head? isFirst)
    refine ⟨front, after, isLine, ?_, rfl⟩
    rintro other rest rfl
    obtain ⟨found, isFirst', leftmost⟩ := exists_first_literal text other rest
    obtain rfl := Option.some.inj (isFirst.symm.trans isFirst')
    exact leftmost
  · rintro ⟨front, after, rfl, foremost, rfl⟩
    obtain ⟨found, isFirst, leftmost⟩ := exists_first_literal text front after
    obtain ⟨front', after', isLine, rfl⟩ := literal_of_mem_matchesOf (List.mem_of_head? isFirst)
    have same : width front' = width front :=
      Nat.le_antisymm leftmost (foremost front' after' isLine)
    rw [isFirst, width_append, width_append, same]

theorem exists_foremost (text before rest : Text) :
    ∃ front after, before ++ text ++ rest = front ++ text ++ after ∧
      Foremost text front (before ++ text ++ rest) := by
  obtain ⟨found, isFirst, -⟩ := exists_first_literal text before rest
  obtain ⟨front, after, same, foremost, -⟩ := head?_matchesOf_literal_iff.mp isFirst
  exact ⟨front, after, same, foremost⟩

theorem mem_firstOccurrences_iff {pattern : Pattern} {lines : List Text}
    {occurrence : Occurrence} :
    occurrence ∈ pattern.firstOccurrences lines ↔
      ∃ lineIndex line found, lines[lineIndex]? = some line ∧
        (pattern.matchesOf line).head? = some found ∧ occurrence = ⟨lineIndex, line, found⟩ := by
  have first (lineIndex : Nat) (line : Text) :
      (pattern.occurrences lineIndex line).find? (fun _ => true) =
        (pattern.matchesOf line).head?.map (⟨lineIndex, line, ·⟩) := by
    rw [occurrences]
    cases pattern.matchesOf line <;> rfl
  simp only [firstOccurrences, firstOccurrencesWhere, List.mem_filterMap, Prod.exists, first,
    List.mk_mem_zipIdx_iff_getElem?, Option.map_eq_some_iff]
  constructor
  · rintro ⟨line, lineIndex, isLine, found, isFirst, rfl⟩
    exact ⟨lineIndex, line, found, isLine, isFirst, rfl⟩
  · rintro ⟨lineIndex, line, found, isLine, isFirst, rfl⟩
    exact ⟨line, lineIndex, isLine, found, isFirst, rfl⟩

end Pattern

namespace Rule

variable {id name description code text message : Text} {severity : Severity} {kind : FileKind}
  {replacement : Option Text} {page : Page}

theorem mem_findings_ofLiteral_iff {finding : Finding} :
    finding ∈ (ofLiteral id name description code severity kind text message replacement).findings
        page ↔
      ∃ lineIndex front after, page.lines[lineIndex]? = some (front ++ text ++ after) ∧
        Pattern.Foremost text front (front ++ text ++ after) ∧
        finding = ⟨⟨lineIndex, front ++ text ++ after, width front, width (front ++ text)⟩, message,
          replacement⟩ := by
  simp only [ofLiteral, List.mem_map, Pattern.mem_firstOccurrences_iff,
    Pattern.head?_matchesOf_literal_iff]
  constructor
  · rintro ⟨_, ⟨lineIndex, _, _, isLine, ⟨front, after, rfl, foremost, rfl⟩, rfl⟩, rfl⟩
    exact ⟨lineIndex, front, after, isLine, foremost, rfl⟩
  · rintro ⟨lineIndex, front, after, isLine, foremost, rfl⟩
    exact ⟨_, ⟨lineIndex, _, _, isLine, ⟨front, after, rfl, foremost, rfl⟩, rfl⟩, rfl⟩

theorem exists_mem_check_ofLiteral_iff {lineIndex : Nat} :
    (∃ diagnostic ∈
        (ofLiteral id name description code severity kind text message replacement).check page,
      diagnostic.range.start.line = lineIndex + 1) ↔
      ∃ line, page.lines[lineIndex]? = some line ∧ text <:+: line := by
  constructor
  · rintro ⟨_, reported, atLine⟩
    obtain ⟨finding, found, rfl⟩ := List.mem_map.mp reported
    obtain ⟨index, front, after, isLine, -, rfl⟩ := mem_findings_ofLiteral_iff.mp found
    rw [diagnose_eq] at atLine
    obtain rfl : index = lineIndex := Nat.succ.inj atLine
    exact ⟨_, isLine, front, after, rfl⟩
  · rintro ⟨_, isLine, before, rest, rfl⟩
    obtain ⟨front, after, same, foremost⟩ := Pattern.exists_foremost text before rest
    rw [same] at isLine foremost
    let span : Span := ⟨lineIndex, front ++ text ++ after, width front, width (front ++ text)⟩
    have found : ⟨span, message, replacement⟩ ∈
        (ofLiteral id name description code severity kind text message replacement).findings
          page :=
      mem_findings_ofLiteral_iff.mpr ⟨lineIndex, front, after, isLine, foremost, rfl⟩
    refine ⟨_, List.mem_map_of_mem found, ?_⟩
    rw [diagnose_eq]
    rfl

example : lint (Registry.empty.register
      (ofLiteral "todo" "Todo" "Flags TODO markers" "LOCAL:001" .warning .markup "TODO"
        "Resolve this" none)) (fun _ => false) "a.md" "x\nTODO: y\n".toList =
    .ok [⟨"a.md", ⟨⟨2, 1⟩, ⟨2, 5⟩⟩, .warning, some ⟨"LOCAL:001"⟩, "Resolve this", none⟩] := by
  decide +kernel

end Rule

end CourseLint
