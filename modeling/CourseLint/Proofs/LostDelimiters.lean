import CourseLint.Proofs.CallSegments
import CourseLint.Proofs.LineLocality
import CourseLint.Proofs.Round

set_option autoImplicit false

namespace CourseLint

open Text

namespace Delimiter

section Characters

variable {delimiter : Delimiter} {head left right rest : Text}

theorem Lacks.mem_open (lacks : delimiter.Lacks head left right rest)
    (other : delimiter ≠ .openBrace) : '{' ∈ head ++ (left ++ right) ++ rest := by
  cases lacks <;> simp_all

theorem Lacks.mem_close (lacks : delimiter.Lacks head left right rest)
    (other : delimiter ≠ .closeBrace) : '}' ∈ head ++ (left ++ right) ++ rest := by
  cases lacks <;> simp_all

theorem Lacks.count_percent (lacks : delimiter.Lacks head left right rest)
    (brace : delimiter = .openBrace ∨ delimiter = .closeBrace) :
    2 ≤ (head ++ (left ++ right) ++ rest).count '%' := by
  cases lacks <;> simp_all <;> omega

theorem Lacks.not_brace_of_one_percent (lacks : delimiter.Lacks head left right rest)
    (once : (head ++ (left ++ right) ++ rest).count '%' = 1) :
    ¬(delimiter = .openBrace ∨ delimiter = .closeBrace) := by
  intro brace
  have twice := lacks.count_percent brace
  omega

end Characters

variable {front body tail : Text} (bareFront : Bare front) (bareBody : Bare body)
  (bareTail : Bare tail)
include bareFront bareBody bareTail

section Lost

variable {lost delimiter : Delimiter} {head left right rest : Text}
  (whole : front ++ damagedText lost body ++ tail = head ++ (left ++ right) ++ rest)
include whole

theorem Lacks.eq_lost (nonempty : body ≠ []) (lacks : delimiter.Lacks head left right rest) :
    delimiter = lost := by
  obtain ⟨frontOpen, frontPercent, frontClose⟩ := bare_iff.mp bareFront
  obtain ⟨bodyOpen, bodyPercent, bodyClose⟩ := bare_iff.mp bareBody
  obtain ⟨tailOpen, tailPercent, tailClose⟩ := bare_iff.mp bareTail
  by_contra other
  -- A lost brace is missed by its sign; a lost percent sign leaves one, and two stand at a brace.
  cases lost with
  | openBrace =>
    have noOpen := whole ▸ lacks.mem_open other
    simp [*] at noOpen
  | closeBrace =>
    have noClose := whole ▸ lacks.mem_close other
    simp [*] at noClose
  | openPercent =>
    have once : (front ++ damagedText .openPercent body ++ tail).count '%' = 1 := by
      simp [List.count_eq_zero.mpr, *]
    have notBrace := lacks.not_brace_of_one_percent (whole ▸ once)
    cases lacks with
    | closePercent head run c rest plain notPercent =>
      have parts : front ++ '{' :: (body ++ '%' :: '}' :: tail) =
          head ++ '{' :: '%' :: (run ++ c :: '}' :: rest) := by simpa using whole
      obtain ⟨-, same⟩ := cut_at_only frontOpen (by simp [*]) parts
      obtain ⟨d, body, rfl⟩ := List.exists_cons_of_ne_nil nonempty
      simp_all
    | openPercent => exact other rfl
    | _ => simp at notBrace
  | closePercent =>
    have once : (front ++ damagedText .closePercent body ++ tail).count '%' = 1 := by
      simp [List.count_eq_zero.mpr, *]
    have notBrace := lacks.not_brace_of_one_percent (whole ▸ once)
    cases lacks with
    | openPercent head c run rest notPercent plain =>
      have parts : front ++ '{' :: '%' :: (body ++ '}' :: tail) =
          head ++ '{' :: c :: (run ++ ' ' :: '%' :: '}' :: rest) := by simpa using whole
      obtain ⟨-, same⟩ := cut_at_only frontOpen (by simp [*]) parts
      exact notPercent (List.cons.inj same).1.symm
    | closePercent => exact other rfl
    | _ => simp at notBrace

theorem Lacks.restores (lacks : lost.Lacks head left right rest) :
    head ++ (left ++ lost.char :: right) ++ rest = front ++ callText body ++ tail := by
  obtain ⟨frontOpen, frontPercent, frontClose⟩ := bare_iff.mp bareFront
  obtain ⟨bodyOpen, bodyPercent, bodyClose⟩ := bare_iff.mp bareBody
  obtain ⟨tailOpen, tailPercent, tailClose⟩ := bare_iff.mp bareTail
  cases lacks with
  | openBrace head run rest unopened plain =>
    have parts : front ++ '%' :: (body ++ ['%']) ++ '}' :: tail =
        head ++ '%' :: (run ++ ['%']) ++ '}' :: rest := by simpa using whole
    obtain ⟨upToClose, rfl⟩ := cut_at_only (by simp [*]) tailClose parts
    have upToPercent : front ++ '%' :: body ++ ['%'] = head ++ '%' :: run ++ ['%'] := by
      simpa using upToClose
    obtain ⟨rfl, rfl⟩ := cut_at_last bodyPercent plain (List.append_cancel_right upToPercent)
    simp [callText, char]
  | openPercent head c run rest notPercent plain =>
    have parts : front ++ '{' :: (body ++ '%' :: '}' :: tail) =
        head ++ '{' :: (c :: (run ++ [' ']) ++ '%' :: '}' :: rest) := by simpa using whole
    obtain ⟨rfl, behind⟩ := cut_at_only frontOpen (by simp [*]) parts
    obtain ⟨rfl, closed⟩ := cut_at_first bodyPercent (by simp [plain, Ne.symm notPercent]) behind
    obtain rfl : tail = rest := by simpa using closed
    simp [callText, char]
  | closePercent head run c rest plain notPercent =>
    have parts : front ++ '{' :: ('%' :: body ++ '}' :: tail) =
        head ++ '{' :: ('%' :: (run ++ [c]) ++ '}' :: rest) := by simpa using whole
    obtain ⟨rfl, behind⟩ := cut_at_only frontOpen (by simp [*]) parts
    obtain ⟨same, rfl⟩ := cut_at_only (by simp [bodyClose]) tailClose behind
    obtain rfl : body = run ++ [c] := (List.cons.inj same).2
    simp [callText, char]
  | closeBrace head run c rest plain notBrace =>
    have parts : front ++ '{' :: '%' :: (body ++ '%' :: tail) =
        head ++ '{' :: '%' :: (run ++ '%' :: c :: rest) := by simpa using whole
    obtain ⟨rfl, behind⟩ := cut_at_only frontOpen (by simp [*]) parts
    obtain ⟨rfl, rfl⟩ := cut_at_only bodyPercent tailPercent (List.cons.inj behind).2
    simp [callText, char]
  | closeBraceAtEnd head run plain =>
    have parts : front ++ '{' :: '%' :: (body ++ '%' :: tail) =
        head ++ '{' :: '%' :: (run ++ ['%']) := by simpa using whole
    obtain ⟨rfl, behind⟩ := cut_at_only frontOpen (by simp [*]) parts
    obtain ⟨rfl, rfl⟩ := cut_at_only bodyPercent tailPercent (List.cons.inj behind).2
    simp [callText, char]

end Lost

theorem exists_lacks (lost : Delimiter) (long : 2 ≤ body.length)
    (spaced : body.getLast? = some ' ') :
    ∃ head left right rest,
      front ++ damagedText lost body ++ tail = head ++ (left ++ right) ++ rest ∧
      lost.Lacks head left right rest := by
  obtain ⟨bodyOpen, bodyPercent, bodyClose⟩ := bare_iff.mp bareBody
  obtain ⟨run, rfl⟩ := List.getLast?_eq_some_iff.mp spaced
  cases lost with
  | openBrace =>
    have unopened : front.getLast? ≠ some '{' :=
      fun opens => (bare_iff.mp bareFront).1 (List.mem_of_getLast? opens)
    exact ⟨front, [], _, tail, by simp, .openBrace front _ tail unopened bodyPercent⟩
  | openPercent =>
    have nonempty : run ≠ [] := by
      rintro rfl
      simp at long
    obtain ⟨c, run, rfl⟩ := List.exists_cons_of_ne_nil nonempty
    simp only [List.cons_append, List.mem_cons, List.mem_append, not_or] at bodyPercent
    exact ⟨front ++ ['{'], [], _, tail, by simp,
      .openPercent front c run tail (Ne.symm bodyPercent.1) bodyPercent.2.1⟩
  | closePercent =>
    simp only [List.mem_append, not_or] at bodyClose
    exact ⟨front, _, _, tail, by simp, .closePercent front run ' ' tail bodyClose.1 (by decide)⟩
  | closeBrace =>
    cases tail with
    | nil => exact ⟨_, [], [], [], by simp, .closeBraceAtEnd front _ bodyPercent⟩
    | cons c tail =>
      have notBrace : c ≠ '}' := (bareTail c (by simp)).2.2
      exact ⟨_, [], [c], tail, by simp, .closeBrace front _ c tail bodyPercent notBrace⟩

end Delimiter

section Restored

variable {source : Text}

section OneLine

variable {above below : List Line} {line : Line}
  (lines : linesOf source = above ++ line :: below)
include lines

theorem Delimiter.Makes.repairs {delimiter : Delimiter} {finding : Finding}
    (makes : delimiter.Makes 0 line.text finding) (path : Text) :
    ∃ (piece : Piece source) (left right : Text), piece.before = above ∧ piece.line = line ∧
      finding.span.start = width piece.head ∧ piece.covered = left ++ right ∧
      delimiter.Lacks piece.head left right piece.tail ∧
      (Rule.callDelimiters.diagnose path (finding.shift above.length)).Repairs piece
        (left ++ delimiter.char :: right) := by
  have moved := Rule.makes_shift above.length makes
  rw [Nat.zero_add] at moved
  have present : (linesOf source)[above.length]? = some line := by simp [lines]
  obtain ⟨head, left, right, tail, parts, lacks, span, replaced⟩ := moved
  obtain ⟨piece, atLine, rfl, rfl, covered, rfl⟩ :=
    exists_piece head (left ++ right) tail present parts
  obtain ⟨isAbove, -⟩ := List.append_inj (lines.symm.trans piece.lines_eq) atLine.symm
  have samePlace : (finding.shift above.length).span = piece.span := by
    rw [span, Piece.span, covered, atLine]
  exact ⟨piece, left, right, isAbove.symm, rfl, congrArg Span.start samePlace, covered, lacks,
    ⟨Rule.callDelimiters.diagnose_asks path samePlace replaced, covered ▸ lacks.rewrites⟩⟩

theorem Rule.check_onLine (page : Page) (pageLines : page.lines = splitLines source) :
    (callDelimiters.check page).filter (·.range.start.line == above.length + 1) =
      (Delimiter.scanned.flatMap (·.scan [line.text])).map fun finding =>
        callDelimiters.diagnose page.path (finding.shift above.length) := by
  have onPage : page.lines = above.map Line.text ++ line.text :: below.map Line.text := by
    simp [pageLines, splitLines, lines]
  simpa using check_callDelimiters_onLine page onPage

end OneLine

theorem Diagnostic.Repairs.lands {diagnostic : Diagnostic} {piece : Piece source}
    {replacement : Text} (repairs : diagnostic.Repairs piece replacement) :
    repair source [diagnostic] = some
      (⟨((linesOf source).set piece.before.length
        ⟨piece.head ++ replacement ++ piece.tail, piece.line.ending⟩).flatMap Line.source, 1, 0⟩,
      0) := by
  rw [← piece.rewritten_eq]
  exact repair_eq (Edit.ofDiagnostics_singleton repairs.placed) (piece.applyAll_singleton _)

variable {front body tail : Text} (bareFront : Bare front) (bareBody : Bare body)
  (bareTail : Bare tail)
include bareFront bareBody bareTail

theorem Delimiter.exists_only_finding (lost : Delimiter) (long : 2 ≤ body.length)
    (spaced : body.getLast? = some ' ') :
    ∃ finding, Delimiter.scanned.flatMap (·.scan [front ++ damagedText lost body ++ tail]) =
      [finding] ∧ lost.Makes 0 (front ++ damagedText lost body ++ tail) finding := by
  have nonempty : body ≠ [] := by
    rintro rfl
    simp at long
  obtain ⟨head, left, right, rest, whole, lacks⟩ :=
    exists_lacks bareFront bareBody bareTail lost long spaced
  obtain ⟨finding, alone⟩ := exists_scan_eq lacks
  rw [← whole] at alone
  have silent (delimiter : Delimiter) (other : delimiter ≠ lost) :
      delimiter.scan [front ++ damagedText lost body ++ tail] = [] := by
    refine List.eq_nil_iff_forall_not_mem.mpr fun finding member => other ?_
    obtain ⟨_, _, _, _, parts, lacks', -, -⟩ := makes_of_mem_scan member
    exact lacks'.eq_lost bareFront bareBody bareTail parts nonempty
  refine ⟨finding, ?_, makes_of_mem_scan (alone ▸ List.mem_singleton_self finding)⟩
  rw [flatMap_scanned_eq silent, alone]

theorem lost_delimiter_restored (page : Page) (above below : List Line) (ending : Ending)
    (lost : Delimiter) (long : 2 ≤ body.length) (spaced : body.getLast? = some ' ')
    (lines : linesOf source =
      above ++ ⟨front ++ damagedText lost body ++ tail, ending⟩ :: below)
    (pageLines : page.lines = splitLines source) :
    ∃ diagnostic,
      (Rule.callDelimiters.check page).filter (·.range.start.line == above.length + 1) =
        [diagnostic] ∧
      repair source [diagnostic] = some
        (⟨(above ++ ⟨front ++ callText body ++ tail, ending⟩ :: below).flatMap Line.source, 1, 0⟩,
          0) := by
  obtain ⟨finding, only, makes⟩ :=
    Delimiter.exists_only_finding bareFront bareBody bareTail lost long spaced
  have onLine := Rule.check_onLine lines page pageLines
  rw [only, List.map_singleton] at onLine
  refine ⟨_, onLine, ?_⟩
  obtain ⟨piece, left, right, rfl, isLine, -, covered, lacks, repairs⟩ :=
    makes.repairs lines page.path
  have whole := piece.text_eq
  rw [isLine, covered] at whole
  have restored := lacks.restores bareFront bareBody bareTail whole
  rw [repairs.lands, restored, isLine, lines]
  simp

end Restored

def lostBraceText : Text := "intro\r\nsee \x7b% icon tip %\r\nend"

theorem lost_delimiter_restored_at_line_end :
    (Bare "see ".toList ∧ Bare " icon tip ".toList ∧ Bare [] ∧ 2 ≤ " icon tip ".toList.length ∧
      " icon tip ".toList.getLast? = some ' ') ∧
    linesOf lostBraceText = [⟨"intro", .carriageReturnLineFeed⟩] ++
      ⟨"see ".toList ++ damagedText .closeBrace " icon tip " ++ [], .carriageReturnLineFeed⟩ ::
        [⟨"end", .absent⟩] ∧
    ∃ diagnostic,
      (Rule.callDelimiters.check ⟨"tutorial.md", splitLines lostBraceText, [], fun _ => false⟩).filter
        (·.range.start.line == 2) = [diagnostic] ∧
      repair lostBraceText [diagnostic] = some
        (⟨"intro\r\nsee \x7b% icon tip %\x7d\r\nend".toList, 1, 0⟩, 0) := by
  have bare : Bare "see ".toList ∧ Bare " icon tip ".toList ∧ Bare [] ∧
      2 ≤ " icon tip ".toList.length ∧ " icon tip ".toList.getLast? = some ' ' := by decide
  have lines : linesOf lostBraceText = [⟨"intro", .carriageReturnLineFeed⟩] ++
      ⟨"see ".toList ++ damagedText .closeBrace " icon tip " ++ [], .carriageReturnLineFeed⟩ ::
        [⟨"end", .absent⟩] := by decide
  obtain ⟨diagnostic, only, restored⟩ := lost_delimiter_restored bare.1 bare.2.1 bare.2.2.1
    ⟨"tutorial.md", splitLines lostBraceText, [], fun _ => false⟩ _ _ _ _ bare.2.2.2.1
    bare.2.2.2.2 lines rfl
  exact ⟨bare, lines, diagnostic, only, restored.trans (by decide)⟩

end CourseLint
