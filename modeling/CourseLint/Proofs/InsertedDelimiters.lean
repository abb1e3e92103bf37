import CourseLint.Proofs.LostDelimiters

set_option autoImplicit false

namespace CourseLint

open Text

namespace Delimiter

def pair : Delimiter → Text
  | .openBrace | .openPercent => ['{', '%']
  | .closePercent | .closeBrace => ['%', '}']

def Completes (delimiter : Delimiter) (before behind : Text) : Prop :=
  (∃ rest, delimiter.char :: behind = delimiter.pair ++ rest) ∨
    ∃ front, before ++ [delimiter.char] = front ++ delimiter.pair

variable {delimiter : Delimiter} {head left right tail : Text}

theorem Lacks.completes (lacks : delimiter.Lacks head left right tail) :
    delimiter.Completes (head ++ left) (right ++ tail) := by
  cases lacks with
  | openBrace head run tail unopened plain =>
    apply Or.inl
    exact ⟨run ++ ['%', '}'] ++ tail, rfl⟩
  | openPercent front c run tail other plain =>
    apply Or.inr
    exact ⟨front, by simp [char, pair]⟩
  | closePercent head run c tail plain other =>
    apply Or.inl
    exact ⟨tail, rfl⟩
  | closeBrace front run c tail plain other =>
    apply Or.inr
    exact ⟨front ++ '{' :: '%' :: run, by simp [char, pair]⟩
  | closeBraceAtEnd front run plain =>
    apply Or.inr
    exact ⟨front ++ '{' :: '%' :: run, by simp [char, pair]⟩

end Delimiter

section Suggested

variable {source : Text}

theorem callDelimiters_inserts_one_delimiter (page : Page)
    (pageLines : page.lines = splitLines source) {diagnostic : Diagnostic}
    (reported : diagnostic ∈ Rule.callDelimiters.check page) :
    ∃ (delimiter : Delimiter) (finding : Finding) (lineIndex : Nat) (line : Line)
      (head left right tail : Text),
      finding ∈ delimiter.scan page.lines ∧
      diagnostic = Rule.callDelimiters.diagnose page.path finding ∧
      (linesOf source)[lineIndex]? = some line ∧
      line.text = head ++ (left ++ right) ++ tail ∧
      diagnostic.range =
        Span.range ⟨lineIndex, line.text, width head, width (head ++ (left ++ right))⟩ ∧
      diagnostic.suggestion = some
        ⟨left ++ delimiter.char :: right ++
          (if diagnostic.range.spansLineBreak then ['\n'] else []), diagnostic.range⟩ ∧
      delimiter.Completes (head ++ left) (right ++ tail) ∧
      repair source [diagnostic] = some
        (⟨((linesOf source).set lineIndex
          ⟨head ++ left ++ delimiter.char :: (right ++ tail), line.ending⟩).flatMap Line.source,
          1, 0⟩, 0) := by
  obtain ⟨finding, found, rfl⟩ := List.mem_map.mp reported
  obtain ⟨delimiter, scanned⟩ := Rule.mem_findings_callDelimiters_iff.mp found
  obtain ⟨lineIndex, text, onPage, head, left, right, tail, parts, lacks, span, replaced⟩ :=
    Delimiter.lacks_of_mem_scan scanned
  rw [pageLines, splitLines, List.getElem?_map] at onPage
  obtain ⟨line, present, rfl⟩ := Option.map_eq_some_iff.mp onPage
  have range : (Rule.callDelimiters.diagnose page.path finding).range = finding.span.range := by
    rw [Rule.diagnose_eq]
  have suggested : (Rule.callDelimiters.diagnose page.path finding).suggestion = some
      ⟨left ++ delimiter.char :: right ++
        (if finding.span.range.spansLineBreak then ['\n'] else []), finding.span.range⟩ := by
    rw [Rule.diagnose_eq, replaced]
    by_cases breaks : finding.span.range.spansLineBreak = true <;> simp [breaks]
  refine ⟨delimiter, finding, lineIndex, line, head, left, right, tail, scanned, rfl, present, parts,
    ?_, ?_, lacks.completes, ?_⟩
  · rw [range, span]
  · rw [range]
    exact suggested
  · obtain ⟨piece, rfl, rfl, rfl, isCovered, rfl⟩ := exists_piece _ _ _ present parts
    have samePlace : finding.span = piece.span := by rw [span, Piece.span, isCovered]
    have repairs : (Rule.callDelimiters.diagnose page.path finding).Repairs piece
        (left ++ delimiter.char :: right) :=
      ⟨Rule.callDelimiters.diagnose_asks page.path samePlace replaced, isCovered ▸ lacks.rewrites⟩
    rw [repairs.lands]
    simp only [List.append_assoc, List.cons_append]

def unopenedText : Text := "\x7b% icon tip %\x7d\r\nsee % icon é %\x7d or \x7b icon tip %\x7d"

def unopenedPage : Page := ⟨"tutorial.md", splitLines unopenedText, [], fun _ => false⟩

theorem callDelimiters_inserts_percent_at_line_end :
    ∃ diagnostic, diagnostic ∈ Rule.callDelimiters.check unopenedPage ∧
      diagnostic.range = ⟨⟨2, 22⟩, ⟨3, 1⟩⟩ ∧
      ∃ (delimiter : Delimiter) (line : Line) (head left right tail : Text),
        (linesOf unopenedText)[1]? = some line ∧ line.text = head ++ (left ++ right) ++ tail ∧
        diagnostic.suggestion =
          some ⟨left ++ delimiter.char :: right ++ ['\n'], diagnostic.range⟩ ∧
        delimiter.Completes (head ++ left) (right ++ tail) ∧
        repair unopenedText [diagnostic] = some
          (⟨((linesOf unopenedText).set 1
            ⟨head ++ left ++ delimiter.char :: (right ++ tail), line.ending⟩).flatMap Line.source,
            1, 0⟩, 0) := by
  have ranges : (Rule.callDelimiters.check unopenedPage).map Diagnostic.range =
      [⟨⟨2, 5⟩, ⟨2, 17⟩⟩, ⟨⟨2, 22⟩, ⟨3, 1⟩⟩] := by decide +kernel
  have second : (⟨⟨2, 22⟩, ⟨3, 1⟩⟩ : Range) ∈
      (Rule.callDelimiters.check unopenedPage).map Diagnostic.range := by simp [ranges]
  obtain ⟨diagnostic, reported, range⟩ := List.mem_map.mp second
  obtain ⟨delimiter, -, lineIndex, line, head, left, right, tail, -, -, present, parts, place,
    suggested, completes, repaired⟩ :=
    callDelimiters_inserts_one_delimiter unopenedPage rfl reported
  have onSecond : lineIndex = 1 := by
    have start := congrArg (fun range => range.start.line) (place.symm.trans range)
    simpa [Span.range] using start
  rw [onSecond] at present repaired
  have breaks : diagnostic.range.spansLineBreak = true := by
    rw [range]
    decide
  rw [breaks, if_pos rfl] at suggested
  exact ⟨diagnostic, reported, range, delimiter, line, head, left, right, tail, present, parts,
    suggested, completes, repaired⟩

end Suggested

end CourseLint
