import CourseLint.Proofs.PatternParts

set_option autoImplicit false

namespace CourseLint

open Text

inductive Delimiter where
  | openBrace
  | openPercent
  | closePercent
  | closeBrace
deriving DecidableEq, Repr

namespace Delimiter

def char : Delimiter → Char
  | .openBrace => '{'
  | .openPercent => '%'
  | .closePercent => '%'
  | .closeBrace => '}'

def pattern : Delimiter → Pattern
  | .openBrace => Pattern.missingOpenBrace
  | .openPercent => Pattern.missingOpenPercent
  | .closePercent => Pattern.missingClosePercent
  | .closeBrace => Pattern.missingCloseBrace

def scan : Delimiter → List Text → List Finding
  | .openBrace => Rule.missingOpenBrace
  | .openPercent => Rule.missingOpenPercent
  | .closePercent => Rule.missingClosePercent
  | .closeBrace => Rule.missingCloseBrace

def scanned : List Delimiter := [.openBrace, .openPercent, .closeBrace, .closePercent]

theorem mem_scanned (delimiter : Delimiter) : delimiter ∈ scanned := by
  cases delimiter <;> decide

theorem flatMap_scanned_eq {α : Type} {found : Delimiter → List α} {delimiter : Delimiter}
    (others : ∀ other, other ≠ delimiter → found other = []) :
    scanned.flatMap found = found delimiter := by
  cases delimiter <;> simp [scanned, others]

inductive Lacks : Delimiter → (head left right tail : Text) → Prop where
  | openBrace (head run tail : Text) (unopened : head.getLast? ≠ some '{') (plain : '%' ∉ run) :
      Lacks .openBrace head [] ('%' :: (run ++ ['%', '}'])) tail
  | openPercent (head : Text) (c : Char) (run tail : Text) (other : c ≠ '%') (plain : '%' ∉ run) :
      Lacks .openPercent (head ++ ['{']) [] (c :: (run ++ [' ', '%', '}'])) tail
  | closePercent (head run : Text) (c : Char) (tail : Text) (plain : '}' ∉ run) (other : c ≠ '%') :
      Lacks .closePercent head ('{' :: '%' :: (run ++ [c])) ['}'] tail
  | closeBrace (head run : Text) (c : Char) (tail : Text) (plain : '%' ∉ run) (other : c ≠ '}') :
      Lacks .closeBrace (head ++ '{' :: '%' :: (run ++ ['%'])) [] [c] tail
  | closeBraceAtEnd (head run : Text) (plain : '%' ∉ run) :
      Lacks .closeBrace (head ++ '{' :: '%' :: (run ++ ['%'])) [] [] []

variable {delimiter : Delimiter} {head left right tail : Text}

theorem Lacks.rewrites (lacks : delimiter.Lacks head left right tail) :
    Rewrites head (left ++ right) tail (left ++ delimiter.char :: right) := by
  cases lacks with
  | openBrace head run tail unopened plain => exact .openBrace head _ tail unopened
  | openPercent head c run tail other plain => exact .openPercent head c _ tail other
  | closePercent head run c tail plain other =>
    simpa [char] using Rewrites.closePercent head ('%' :: run) c tail other
  | closeBrace head run c tail plain other =>
    simpa [char] using Rewrites.closeBrace (head ++ '{' :: '%' :: run) c tail other
  | closeBraceAtEnd head run plain =>
    simpa [char] using Rewrites.closeBraceAtEnd (head ++ '{' :: '%' :: run)

theorem Lacks.covered_ne_nil (lacks : delimiter.Lacks head left right tail)
    (other : delimiter ≠ .closeBrace) : left ++ right ≠ [] := by
  cases lacks <;> simp_all

def Makes (delimiter : Delimiter) (lineIndex : Nat) (line : Text) (finding : Finding) : Prop :=
  ∃ head left right tail, line = head ++ (left ++ right) ++ tail ∧
    delimiter.Lacks head left right tail ∧
    finding.span = ⟨lineIndex, line, width head, width (head ++ (left ++ right))⟩ ∧
    finding.replacement = some (left ++ delimiter.char :: right)

theorem makes_of_replaceGroup? {lineIndex index : Nat} {line message : Text} {found : Match}
    (delimiter : Delimiter) (head right tail : Text)
    (parts : line = head ++ right ++ tail) (lacks : delimiter.Lacks head [] right tail)
    (capture : found.captures.find? (·.index == index) =
      some ⟨index, width head, width (head ++ right)⟩) :
    ∃ finding, Occurrence.replaceGroup? message index
        (delimiter.char :: Occurrence.group ⟨lineIndex, line, found⟩ index)
        ⟨lineIndex, line, found⟩ = some finding ∧
      delimiter.Makes lineIndex line finding := by
  rw [Occurrence.replaceGroup?, Occurrence.groupSpan?_eq capture,
    Occurrence.group_eq head right tail capture parts]
  exact ⟨_, rfl, head, [], right, tail, parts, lacks, rfl, rfl⟩

theorem exists_report (delimiter : Delimiter) :
    ∃ report : Occurrence → Option Finding,
      (∀ lines, delimiter.scan lines =
        (delimiter.pattern.firstOccurrences lines).filterMap report) ∧
      ∀ lineIndex front covered after captures,
        delimiter.pattern.Fits front covered after captures →
        ∃ finding, report ⟨lineIndex, front ++ covered ++ after,
            ⟨width front, width (front ++ covered), captures⟩⟩ = some finding ∧
          delimiter.Makes lineIndex (front ++ covered ++ after) finding := by
  cases delimiter with
  | openBrace =>
    refine ⟨_, fun _ => rfl, ?_⟩
    intro lineIndex front covered after captures fits
    obtain ⟨first, run, rfl, plain, start, rfl⟩ := Pattern.fits_missingOpenBrace_iff.mp fits
    have unopened : (front ++ first).getLast? ≠ some '{' := by
      rcases start with ⟨c, rfl, other⟩ | ⟨rfl, rfl⟩
      · simpa using other
      · simp
    exact makes_of_replaceGroup? .openBrace (front ++ first) _ after (by simp)
      (.openBrace _ run after unopened plain) (by simp)
  | openPercent =>
    refine ⟨_, fun _ => rfl, ?_⟩
    intro lineIndex front covered after captures fits
    obtain ⟨c, run, rfl, other, plain, rfl⟩ := Pattern.fits_missingOpenPercent_iff.mp fits
    exact makes_of_replaceGroup? .openPercent (front ++ ['{']) _ after (by simp)
      (.openPercent front c run after other plain) (by simp)
  | closePercent =>
    refine ⟨_, fun _ => (congrFun List.filterMap_eq_map _).symm, ?_⟩
    intro lineIndex front covered after captures fits
    obtain ⟨run, c, rfl, plain, other, rfl⟩ := Pattern.fits_missingClosePercent_iff.mp fits
    refine ⟨_, rfl, front, '{' :: '%' :: (run ++ [c]), ['}'], after, rfl,
      .closePercent front run c after plain other, rfl, ?_⟩
    change some (Occurrence.group _ 1 ++ ['%', '}']) = _
    rw [Occurrence.group_eq front ('{' :: '%' :: (run ++ [c])) ('}' :: after) (by simp) (by simp)]
    rfl
  | closeBrace =>
    refine ⟨_, fun _ => rfl, ?_⟩
    intro lineIndex front covered after captures fits
    obtain ⟨run, last, rfl, plain, ending, rfl⟩ := Pattern.fits_missingCloseBrace_iff.mp fits
    refine makes_of_replaceGroup? .closeBrace (front ++ '{' :: '%' :: (run ++ ['%'])) last after
      (by simp) ?_ (by simp)
    rcases ending with ⟨c, rfl, other⟩ | ⟨rfl, rfl⟩
    · exact .closeBrace front run c after plain other
    · exact .closeBraceAtEnd front run plain

theorem lacks_of_mem_scan {lines : List Text} {finding : Finding}
    (member : finding ∈ delimiter.scan lines) :
    ∃ lineIndex line, lines[lineIndex]? = some line ∧ delimiter.Makes lineIndex line finding := by
  obtain ⟨report, scan, reports⟩ := delimiter.exists_report
  rw [scan] at member
  obtain ⟨lineIndex, front, covered, after, captures, present, fits, reported⟩ :=
    Pattern.exists_fit_of_mem_filterMap member
  obtain ⟨finding', reported', makes⟩ := reports lineIndex front covered after captures fits
  obtain rfl := Option.some.inj (reported.symm.trans reported')
  exact ⟨lineIndex, _, present, makes⟩

theorem makes_of_mem_scan {line : Text} {finding : Finding}
    (member : finding ∈ delimiter.scan [line]) : delimiter.Makes 0 line finding := by
  obtain ⟨lineIndex, line', present, makes⟩ := lacks_of_mem_scan member
  obtain ⟨rfl, rfl⟩ : lineIndex = 0 ∧ line = line' := by
    simpa [List.getElem?_singleton] using present
  exact makes

theorem Lacks.exists_fit (lacks : delimiter.Lacks head left right tail) :
    ∃ front covered after captures,
      head ++ (left ++ right) ++ tail = front ++ covered ++ after ∧
      delimiter.pattern.Fits front covered after captures := by
  cases lacks with
  | openBrace head run tail unopened plain =>
    rcases head.eq_nil_or_concat with rfl | ⟨front, c, rfl⟩
    · exact ⟨[], _, tail, _, by simp,
        Pattern.fits_missingOpenBrace_iff.mpr ⟨[], run, rfl, plain, .inr ⟨rfl, rfl⟩, rfl⟩⟩
    · have other : c ≠ '{' := by simpa using unopened
      exact ⟨front, _, tail, _, by simp,
        Pattern.fits_missingOpenBrace_iff.mpr ⟨[c], run, rfl, plain, .inl ⟨c, rfl, other⟩, rfl⟩⟩
  | openPercent front c run tail other plain =>
    exact ⟨front, _, tail, _, by simp,
      Pattern.fits_missingOpenPercent_iff.mpr ⟨c, run, rfl, other, plain, rfl⟩⟩
  | closePercent head run c tail plain other =>
    exact ⟨head, _, tail, _, by simp,
      Pattern.fits_missingClosePercent_iff.mpr ⟨run, c, rfl, plain, other, rfl⟩⟩
  | closeBrace front run c tail plain other =>
    exact ⟨front, _, tail, _, by simp,
      Pattern.fits_missingCloseBrace_iff.mpr ⟨run, [c], rfl, plain, .inl ⟨c, rfl, other⟩, rfl⟩⟩
  | closeBraceAtEnd front run plain =>
    exact ⟨front, _, [], _, by simp,
      Pattern.fits_missingCloseBrace_iff.mpr ⟨run, [], rfl, plain, .inr ⟨rfl, rfl⟩, rfl⟩⟩

theorem exists_scan_eq (lacks : delimiter.Lacks head left right tail) :
    ∃ finding, delimiter.scan [head ++ (left ++ right) ++ tail] = [finding] := by
  obtain ⟨report, scan, reports⟩ := delimiter.exists_report
  obtain ⟨front, covered, after, captures, whole, fits⟩ := lacks.exists_fit
  obtain ⟨occurrence, alone, -⟩ := Pattern.exists_firstOccurrence fits
  have found : occurrence ∈ delimiter.pattern.firstOccurrences [front ++ covered ++ after] := by
    rw [alone]
    exact List.mem_singleton_self _
  obtain ⟨lineIndex, front', covered', after', captures', -, fits', rfl⟩ :=
    Pattern.exists_fit_of_mem_firstOccurrencesWhere found
  obtain ⟨finding, reported, -⟩ := reports lineIndex front' covered' after' captures' fits'
  exact ⟨finding, by rw [scan, whole, alone, List.filterMap_cons_some reported, List.filterMap_nil]⟩

theorem scan_singleton (delimiter : Delimiter) (line : Text) :
    ∃ found : Option Finding, delimiter.scan [line] = found.toList := by
  obtain ⟨report, scan, -⟩ := delimiter.exists_report
  rw [scan, Pattern.firstOccurrences_singleton]
  cases (delimiter.pattern.matchesOf line).head? with
  | none => exact ⟨none, rfl⟩
  | some found =>
    refine ⟨report ⟨0, line, found⟩, ?_⟩
    cases reported : report ⟨0, line, found⟩ <;> simp [reported]

theorem start_le_of_mem_scan_openPercent {finding : Finding}
    (lacks : openPercent.Lacks head left right tail)
    (member : finding ∈ openPercent.scan [head ++ (left ++ right) ++ tail]) :
    finding.span.start ≤ width head := by
  cases lacks with
  | openPercent front c run tail other plain =>
    have fits : Pattern.missingOpenPercent.Fits front ('{' :: c :: (run ++ [' ', '%', '}'])) tail _ :=
      Pattern.fits_missingOpenPercent_iff.mpr ⟨c, run, rfl, other, plain, rfl⟩
    obtain ⟨occurrence, alone, leftmost⟩ := Pattern.exists_firstOccurrence fits
    have whole : front ++ ['{'] ++ ([] ++ c :: (run ++ [' ', '%', '}'])) ++ tail =
        front ++ '{' :: c :: (run ++ [' ', '%', '}']) ++ tail := by simp
    rw [whole] at member
    obtain ⟨first, isFirst, reported⟩ := List.mem_filterMap.mp member
    obtain ⟨_, front', _, _, _, -, fits', rfl⟩ :=
      Pattern.exists_fit_of_mem_firstOccurrencesWhere isFirst
    obtain rfl := List.mem_singleton.mp (alone ▸ isFirst)
    obtain ⟨c', run', rfl, -, -, rfl⟩ := Pattern.fits_missingOpenPercent_iff.mp fits'
    obtain ⟨span, isSpan, rfl⟩ := Option.map_eq_some_iff.mp reported
    obtain rfl : (⟨_, _, width (front' ++ ['{']), _⟩ : Span) = span := Option.some.inj isSpan
    simpa using leftmost

end Delimiter

end CourseLint
