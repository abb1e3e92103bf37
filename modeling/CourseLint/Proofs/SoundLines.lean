import CourseLint.Proofs.CallSegments
import CourseLint.Proofs.LineLocality

set_option autoImplicit false

namespace CourseLint

open Text

def Segment.Sound : Segment → Prop
  | .plain text => '{' ∉ text ∧ '}' ∉ text
  | .output body => Bare body
  | .call body => Bare body
  | .damaged _ _ => False

instance : (segment : Segment) → Decidable segment.Sound
  | .plain text => inferInstanceAs (Decidable ('{' ∉ text ∧ '}' ∉ text))
  | .output body => inferInstanceAs (Decidable (Bare body))
  | .call body => inferInstanceAs (Decidable (Bare body))
  | .damaged _ _ => inferInstanceAs (Decidable False)

section Sound

variable {segments : List Segment} (sound : ∀ segment ∈ segments, segment.Sound)
include sound

theorem head?_ne_close_of_sound : (segments.flatMap Segment.text).head? ≠ some '}' := by
  induction segments with
  | nil => simp
  | cons segment segments ih =>
    have here := sound segment (by simp)
    have later := ih fun other member => sound other (by simp [member])
    cases segment with
    | plain text =>
      cases text with
      | nil => simpa [Segment.text] using later
      | cons c text =>
        rintro begins
        obtain rfl : c = '}' := by simpa [Segment.text] using begins
        exact here.2 (by simp)
    | output body => simp [Segment.text]
    | call body => simp [Segment.text, callText]
    | damaged lost body => exact here.elim

theorem closes_of_sound {front back : Text}
    (whole : segments.flatMap Segment.text = front ++ '%' :: '}' :: back) :
    ∃ head body, front = head ++ '{' :: '%' :: body ∧ Bare body := by
  have closing : segments.flatMap Segment.text = (front ++ ['%']) ++ '}' :: back := by
    simpa using whole
  obtain ⟨before, segment, after, early, late, rfl, text, ends, rfl⟩ := exists_segment closing
  have here := sound segment (by simp)
  have percent : early ≠ [] → '%' ∈ early := by
    intro nonempty
    have isLast := congrArg List.getLast? ends
    rw [List.getLast?_append_of_ne_nil _ nonempty] at isLast
    exact List.mem_of_getLast? (by simpa using isLast.symm)
  cases segment with
  | plain plain => exact absurd (by simp [show plain = _ from text]) here.2
  | output body =>
    have nonempty : early ≠ [] := by
      rintro rfl
      simp [Segment.text] at text
    have inside : '%' ∈ Segment.text (.output body) := by simp [text, percent nonempty]
    simp [Segment.text, (bare_iff.mp here).2.1] at inside
  | call body =>
    have parts : '{' :: '%' :: (body ++ ['%']) ++ '}' :: [] = early ++ '}' :: late := by
      simpa [Segment.text, callText] using text
    obtain ⟨rfl, -⟩ := cut_at_only (by simp [(bare_iff.mp here).2.2]) (by simp) parts
    refine ⟨before.flatMap Segment.text, body, ?_, here⟩
    exact List.append_cancel_right (by simpa using ends)
  | damaged lost body => exact here.elim

theorem opens_of_sound {front back : Text}
    (whole : segments.flatMap Segment.text = front ++ '{' :: '%' :: back) :
    ∃ body tail, back = body ++ '%' :: '}' :: tail ∧ Bare body ∧ tail.head? ≠ some '}' := by
  obtain ⟨before, segment, after, early, late, rfl, text, rfl, begins⟩ := exists_segment whole
  have here := sound segment (by simp)
  have percent : late ≠ [] → '%' ∈ late := by
    intro nonempty
    obtain ⟨c, late, rfl⟩ := List.exists_cons_of_ne_nil nonempty
    obtain ⟨rfl, -⟩ := List.cons.inj begins
    simp
  cases segment with
  | plain plain => exact absurd (by simp [show plain = _ from text]) here.1
  | output body =>
    have nonempty : late ≠ [] := by
      rintro rfl
      have isLast := congrArg List.getLast? text
      rw [Segment.text, List.getLast?_concat] at isLast
      simp [List.getLast?_cons] at isLast
    have inside : '%' ∈ Segment.text (.output body) := by simp [text, percent nonempty]
    simp [Segment.text, (bare_iff.mp here).2.1] at inside
  | call body =>
    have parts : [] ++ '{' :: ('%' :: (body ++ ['%', '}'])) = early ++ '{' :: late := by
      simpa [Segment.text, callText] using text
    obtain ⟨-, rfl⟩ := cut_at_only (by simp) (by simp [(bare_iff.mp here).1]) parts
    refine ⟨body, after.flatMap Segment.text, by simpa using begins, here, ?_⟩
    exact head?_ne_close_of_sound fun other member => sound other (by simp [member])
  | damaged lost body => exact here.elim

theorem Delimiter.not_lacks_of_sound {delimiter : Delimiter} {head left right tail : Text}
    (whole : segments.flatMap Segment.text = head ++ (left ++ right) ++ tail) :
    ¬ delimiter.Lacks head left right tail := by
  intro lacks
  cases lacks with
  | openBrace head run tail unopened plain =>
    have closing : segments.flatMap Segment.text = (head ++ '%' :: run) ++ '%' :: '}' :: tail := by
      simpa using whole
    obtain ⟨front, body, opened, bare⟩ := closes_of_sound sound closing
    have parts : head ++ '%' :: run = (front ++ ['{']) ++ '%' :: body := by simpa using opened
    obtain ⟨rfl, -⟩ := cut_at_last plain (bare_iff.mp bare).2.1 parts
    simp at unopened
  | openPercent head c run tail other plain =>
    have closing : segments.flatMap Segment.text =
        (head ++ '{' :: c :: (run ++ [' '])) ++ '%' :: '}' :: tail := by simpa using whole
    obtain ⟨front, body, opened, bare⟩ := closes_of_sound sound closing
    -- The call would have to begin in front of the brace, and so the brace would be in its body.
    have noPercent : '%' ∉ '{' :: c :: (run ++ [' ']) := by simp [Ne.symm other, plain]
    have parts : head ++ '{' :: c :: (run ++ [' ']) = (front ++ ['{']) ++ '%' :: body := by
      simpa using opened
    rcases List.append_eq_append_iff.mp parts with ⟨between, -, inside⟩ | ⟨between, -, inside⟩
    · exact noPercent (by simp [inside])
    · cases between with
      | nil => exact absurd (List.cons.inj inside).1 (by decide)
      | cons d between => exact (bare_iff.mp bare).1 (by simp [(List.cons.inj inside).2])
  | closePercent head run c tail plain other =>
    have opening : segments.flatMap Segment.text =
        head ++ '{' :: '%' :: (run ++ c :: '}' :: tail) := by simpa using whole
    obtain ⟨body, rest, closed, bare, noClose⟩ := opens_of_sound sound opening
    have noBrace : '}' ∉ body ++ ['%'] := by simp [(bare_iff.mp bare).2.2]
    by_cases closes : c = '}'
    · have parts : run ++ '}' :: '}' :: tail = (body ++ ['%']) ++ '}' :: rest := by
        simpa [closes] using closed
      obtain ⟨-, rfl⟩ := cut_at_first plain noBrace parts
      simp at noClose
    · have noBrace' : '}' ∉ run ++ [c] := by simp [plain, Ne.symm closes]
      have parts : (run ++ [c]) ++ '}' :: tail = (body ++ ['%']) ++ '}' :: rest := by
        simpa using closed
      obtain ⟨same, -⟩ := cut_at_first noBrace' noBrace parts
      exact other (List.append_singleton_inj.mp same).2
  | closeBrace head run c tail plain other =>
    have opening : segments.flatMap Segment.text =
        head ++ '{' :: '%' :: (run ++ '%' :: c :: tail) := by simpa using whole
    obtain ⟨body, rest, closed, bare, -⟩ := opens_of_sound sound opening
    obtain ⟨-, closes⟩ := cut_at_first plain (bare_iff.mp bare).2.1 closed
    exact other (List.cons.inj closes).1
  | closeBraceAtEnd head run plain =>
    have opening : segments.flatMap Segment.text = head ++ '{' :: '%' :: (run ++ ['%']) := by
      simpa using whole
    obtain ⟨body, rest, closed, bare, -⟩ := opens_of_sound sound opening
    obtain ⟨-, closes⟩ := cut_at_first plain (bare_iff.mp bare).2.1 closed
    simp at closes

end Sound

theorem sound_lines_stay_silent (page : Page) (lineIndex : Nat) (segments : List Segment)
    (sound : ∀ segment ∈ segments, segment.Sound)
    (present : page.lines[lineIndex]? = some (segments.flatMap Segment.text)) :
    (∀ scan ∈ Rule.delimiterScans, ∀ finding ∈ scan page.lines,
      finding.span.lineIndex ≠ lineIndex) ∧
    ∀ diagnostic ∈ Rule.callDelimiters.check page,
      diagnostic.range.start.line ≠ lineIndex + 1 := by
  have silent (delimiter : Delimiter) (finding : Finding)
      (member : finding ∈ delimiter.scan page.lines) : finding.span.lineIndex ≠ lineIndex := by
    obtain ⟨reported, line, isLine, head, left, right, tail, rfl, lacks, span, -⟩ :=
      Delimiter.lacks_of_mem_scan member
    rw [span]
    rintro rfl
    exact Delimiter.not_lacks_of_sound sound (Option.some.inj (present.symm.trans isLine)) lacks
  constructor
  · intro scan member
    obtain ⟨delimiter, -, rfl⟩ := List.mem_map.mp (Rule.delimiterScans_eq ▸ member)
    exact silent delimiter
  · intro diagnostic member
    obtain ⟨finding, found, rfl⟩ := List.mem_map.mp member
    obtain ⟨delimiter, scanned⟩ := Rule.mem_findings_callDelimiters_iff.mp found
    rw [Rule.diagnose_eq]
    exact fun sameLine => silent delimiter finding scanned (Nat.succ.inj sameLine)

def strayPercents : List Segment :=
  [.plain "5 % of ", .call " a ", .call "", .plain " % ", .output " b ", .plain "%", .call "-c-"]

theorem sound_lines_stay_silent_percents :
    (∀ segment ∈ strayPercents, segment.Sound) ∧
    strayPercents.flatMap Segment.text =
      "5 % of \x7b% a %\x7d\x7b%%\x7d % \x7b\x7b b \x7d\x7d%\x7b%-c-%\x7d".toList ∧
    ∃ page : Page, page.lines = [strayPercents.flatMap Segment.text, "\x7b% a %"] ∧
      (∀ diagnostic ∈ Rule.callDelimiters.check page, diagnostic.range.start.line ≠ 1) ∧
      (Rule.callDelimiters.check page).map (·.range.start.line) = [2] := by
  have sound : ∀ segment ∈ strayPercents, segment.Sound := by decide
  let page : Page :=
    ⟨"tutorial.md", [strayPercents.flatMap Segment.text, "\x7b% a %"], [], fun _ => false⟩
  have silent := sound_lines_stay_silent page 0 strayPercents sound rfl
  exact ⟨sound, by decide, page, rfl, silent.2, by decide +kernel⟩

end CourseLint
