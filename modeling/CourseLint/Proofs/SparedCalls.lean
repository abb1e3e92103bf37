import CourseLint.Proofs.LineEdits

set_option autoImplicit false

namespace CourseLint

open Text

def MendedBehind (before after : List Segment) : Prop :=
  (∀ segment ∈ before, ¬ segment.Mendable) ∧
    ∃ (texts : List Text) (segment : Segment) (rest : List Segment),
      after = texts.map Segment.plain ++ segment :: rest ∧ segment.Mendable

theorem Segment.flatMap_text_plain (texts : List Text) :
    (texts.map Segment.plain).flatMap Segment.text = texts.flatten := by
  simp [List.flatMap_map, Segment.text]

theorem MendedBehind.exists_parts {segments before after : List Segment} {body : Text}
    (mended : MendedBehind before after) (split : segments = before ++ .call body :: after) :
    ∃ (texts : List Text) (lost : Text) (rest : List Segment),
      after = texts.map Segment.plain ++ .damaged .openPercent lost :: rest ∧
      segments = (before ++ .call body :: texts.map Segment.plain) ++
        .damaged .openPercent lost :: rest ∧
      (Segment.damaged .openPercent lost).Mendable ∧
      ∀ segment ∈ before ++ .call body :: texts.map Segment.plain, ¬ segment.Mendable := by
  obtain ⟨unmended, texts, segment, rest, rfl, mendable⟩ := mended
  obtain ⟨lost, rfl, -, -⟩ := id mendable
  refine ⟨texts, lost, rest, rfl, by simp [split], mendable, fun segment member => ?_⟩
  simp only [List.mem_append, List.mem_cons, List.mem_map] at member
  rcases member with early | rfl | ⟨text, -, rfl⟩
  · exact unmended segment early
  all_goals
    rintro ⟨_, same, -⟩
    cases same

section Spared

variable {source path : Text} {above below : List Line} {line : Line}

theorem not_begins_inside {before body after head left right tail : Text} {edit : Edit}
    {delimiter : Delimiter} (bare : Bare body)
    (atEnd : delimiter = .closeBrace ∨ delimiter = .closePercent)
    (puts : edit.Puts source path above line delimiter head left right tail)
    (whole : line.text = (before ++ ['{']) ++ (body ++ ['%', '}']) ++ after)
    (behind : width (before ++ ['{']) ≤ width head)
    (inside : after ≠ [] → width head < width (before ++ ['{'] ++ (body ++ ['%', '}']))) :
    False := by
  have inLine : head <+: line.text := ⟨left ++ right ++ tail, by simp [puts.parts]⟩
  have front : before ++ ['{'] <+: line.text := ⟨_, (whole.trans (List.append_assoc _ _ _)).symm⟩
  obtain ⟨early, rfl⟩ := prefix_of_width_le front inLine behind
  simp only [width_append] at inside
  obtain ⟨late, cut⟩ : early <+: body ++ ['%', '}'] := by
    rw [whole, List.append_assoc (before ++ ['{']), List.prefix_append_right_inj] at inLine
    by_cases atLineEnd : after = []
    · rwa [atLineEnd, List.append_nil] at inLine
    · have shorter := inside atLineEnd
      exact prefix_of_width_le inLine (List.prefix_append _ _) (by rw [width_append]; omega)
  have rest : left ++ right ++ tail = late ++ after := by
    have same := puts.parts.symm.trans whole
    rw [← cut] at same
    simpa using same
  refine puts.lacks.not_inside_unopened bare atEnd cut.symm (List.append_assoc _ _ _) rest ?_
  rintro rfl
  by_contra more
  have shorter := inside more
  rw [← width_append body, ← cut, List.append_nil] at shorter
  omega

section OneLine

variable (lines : linesOf source = above ++ line :: below)
include lines

theorem mend_applied {before body after head left right tail : Text} {edit brace : Edit}
    (bare : Bare body)
    (puts : edit.Puts source path above line .openPercent (before ++ ['{']) [] (body ++ ['%', '}'])
      after)
    (braced : brace.Puts source path above line .openBrace head left right tail)
    (earlier : width head < width (before ++ ['{'])) :
    edit ∈ Edit.applied source (Edit.forLine source path above.length line.text) := by
  rcases Edit.mem_applied_or_blocked puts.mem_forLine puts.grows.stop_le with taken |
    ⟨other, taken, behind, inside⟩
  · exact taken
  obtain ⟨delimiter, head', left', right', tail', puts'⟩ :=
    exists_puts_of_mem_forLine lines (Edit.mem_of_mem_applied taken)
  rw [puts.start_eq, puts'.start_eq, width_append, width_append _ head'] at behind
  have notAtEnd : ¬(delimiter = .closeBrace ∨ delimiter = .closePercent) := by
    intro atEnd
    refine not_begins_inside bare atEnd puts' puts.parts (by omega) fun more => ?_
    rw [puts.stop_eq more, puts'.start_eq] at inside
    simp only [width_append, width_nil] at inside ⊢
    omega
  cases delimiter with
  | openBrace =>
    have start := braced.start_eq
    have start' := puts'.start_eq
    rw [puts'.unique braced, start, width_append, width_append] at start'
    omega
  | openPercent => exact puts.unique puts' ▸ taken
  | closePercent | closeBrace => simp at notAtEnd

section Mended

variable {segments front rest : List Segment} {body : Text}
  (nearly : ∀ segment ∈ segments, segment.NearlySound)
  (isLine : line.text = segments.flatMap Segment.text)
include nearly isLine

theorem exists_mend (path : Text) (isFirst : segments = front ++ .damaged .openPercent body :: rest)
    (mendable : (Segment.damaged .openPercent body).Mendable)
    (unmended : ∀ segment ∈ front, ¬ segment.Mendable) :
    ∃ edit : Edit,
      edit.Puts source path above line .openPercent (front.flatMap Segment.text ++ ['{']) []
        (body ++ ['%', '}']) (rest.flatMap Segment.text) := by
  obtain ⟨finding, alone, start⟩ :=
    Segment.start_of_mem_scan_openPercent nearly isFirst mendable unmended
  rw [← isLine] at alone
  have whole : line.text = (front.flatMap Segment.text ++ ['{']) ++
      (body ++ '%' :: '}' :: rest.flatMap Segment.text) := by
    simp [isLine, isFirst, Segment.text]
  obtain ⟨edit, head, left, right, tail, -, begins, puts⟩ :=
    exists_puts lines path (alone ▸ List.mem_singleton_self finding)
  have inLine : head <+: line.text := ⟨left ++ right ++ tail, by simp [puts.parts]⟩
  obtain rfl := eq_of_width_eq ⟨_, whole.symm⟩ inLine (start.symm.trans begins)
  have behind : left ++ right ++ tail = body ++ '%' :: '}' :: rest.flatMap Segment.text := by
    rw [puts.parts, List.append_assoc] at whole
    exact List.append_cancel_left whole
  have bare := nearly (.damaged .openPercent body) (by simp [isFirst])
  obtain ⟨rfl, rfl, rfl⟩ := puts.lacks.openPercent_covers (bare_iff.mp bare).2.1 behind
  exact ⟨edit, puts⟩

theorem openBrace_left_out {before after : List Segment}
    (split : segments = before ++ .call body :: after) (mended : MendedBehind before after)
    {left right tail : Text} {edit : Edit}
    (puts : edit.Puts source path above line .openBrace
      (before.flatMap Segment.text ++ '{' :: '%' :: body) left right tail) :
    edit ∉ Edit.applied source (Edit.forLine source path above.length line.text) := by
  obtain ⟨texts, lost, rest, rfl, isFirst, mendable, unmended⟩ := mended.exists_parts split
  have bareLost : Bare lost := nearly (.damaged .openPercent lost) (by simp [isFirst])
  have noPercent : '%' ∉ '}' :: (texts.flatten ++ '{' :: lost) := by
    have bareTexts : ∀ text ∈ texts, '%' ∉ text := fun text member =>
      (bare_iff.mp (nearly (.plain text) (by simp [isFirst, member]))).2.1
    simpa [(bare_iff.mp bareLost).2.1] using bareTexts
  obtain ⟨mend, mends⟩ := exists_mend lines nearly isLine path isFirst mendable unmended
  have whole : line.text = (before.flatMap Segment.text ++ '{' :: '%' :: body) ++ '%' ::
      ('}' :: (texts.flatten ++ '{' :: lost) ++ '%' :: '}' :: rest.flatMap Segment.text) := by
    simp [isLine, split, Segment.text, callText, Segment.flatMap_text_plain]
  have behind : left ++ right ++ tail = '%' ::
      ('}' :: (texts.flatten ++ '{' :: lost) ++ '%' :: '}' :: rest.flatMap Segment.text) := by
    rw [puts.parts, List.append_assoc] at whole
    exact List.append_cancel_left whole
  obtain ⟨rfl, rfl, rfl⟩ := puts.lacks.openBrace_covers noPercent behind
  intro taken
  have wide := '%'.utf8Size_pos
  have taken' : mend ∈ Edit.applied source (Edit.forLine source path above.length line.text) := by
    refine mend_applied lines bareLost mends puts ?_
    simp only [Segment.text, callText, List.flatMap_append, List.flatMap_cons, width_append,
      width_cons, width_nil]
    omega
  -- The brace's edit begins in front of the mend and ends behind the place where that begins.
  have starts := puts.start_eq
  have starts' := mends.start_eq
  have stops := puts.le_stop
  have stops' := mends.le_stop
  simp only [List.flatMap_append, List.flatMap_cons, Segment.text, Segment.flatMap_text_plain,
    callText, width_append, width_cons, width_nil] at starts starts' stops stops'
  have distinct : edit ≠ mend := by
    rintro rfl
    omega
  have disjoint := Edit.disjoint_of_mem_applied Edit.forward_forLine taken taken' distinct
  unfold Edit.Disjoint at disjoint
  omega

end Mended

end OneLine

theorem round_spares_calls (page : Page) {segments : List Segment} {ending : Ending}
    (nearly : ∀ segment ∈ segments, segment.NearlySound)
    (lines : linesOf source = above ++ ⟨segments.flatMap Segment.text, ending⟩ :: below)
    (pageLines : page.lines = splitLines source) :
    ∃ (repaired : Repair) (images : List Text) (rest : Text) (first second : Nat),
      repair source ((Rule.callDelimiters.check page).filter
        (·.range.start.line == above.length + 1)) = some (repaired, 0) ∧
      repaired.text = (above ++ ⟨images.flatten ++ rest, ending⟩ :: below).flatMap Line.source ∧
      images.length = segments.length ∧
      ∀ before body after, segments = before ++ .call body :: after →
        (∃ image, images[before.length]? = some image ∧ callText body <:+: image) ∨
        (before.length = first ∧ EndsInCall (before.flatMap Segment.text)) ∨
        (before.length = second ∧ BeginsInCall (after.flatMap Segment.text) ∧
          ¬ MendedBehind before after) := by
  obtain ⟨repaired, images, rest, result, isText, sameLength, spared⟩ :=
    exists_images lines page.path (List.flatMap_def : _ = (segments.map Segment.text).flatten)
  obtain ⟨first, isFirst⟩ :=
    Segment.exists_host segments .closeBrace (segments.flatMap Segment.text)
  obtain ⟨second, isSecond⟩ :=
    Segment.exists_host segments .openBrace (segments.flatMap Segment.text)
  refine ⟨repaired, images, rest, first, second, repair_onLine lines page pageLines result, isText,
    by simpa using sameLength, ?_⟩
  intro before body after split
  have bare : Bare body := nearly (.call body) (by simp [split])
  rcases spared (before.map Segment.text) (callText body) (after.map Segment.text)
    (by simp [split, Segment.text]) with ⟨image, present, kept⟩ |
    ⟨edit, taken, delimiter, head, left, right, tail, early, late, puts, cut, begun, unfinished,
      front, behind⟩
  · exact .inl ⟨image, by simpa using present, kept.isInfix⟩
  · -- A delimiter is put into the call, so it is one of the two that can be.
    rw [← List.flatMap_def] at front behind
    obtain ⟨finding, found, -, begins⟩ := puts.reported
    have inside := puts.lacks.inside_call bare cut front behind begun unfinished
    have noLeft : left = [] := by
      refine puts.lacks.left_eq_nil ?_
      rintro rfl
      simp at inside
    obtain rfl : head = before.flatMap Segment.text ++ early := by simpa [noLeft] using front
    rcases inside with ⟨rfl, ends⟩ | ⟨rfl, stray, rfl⟩
    · exact .inr (.inl
        ⟨isFirst finding found before _ after early late split cut unfinished begins, ends⟩)
    · refine .inr (.inr
        ⟨isSecond finding found before _ after _ late split cut unfinished begins, stray, ?_⟩)
      exact fun mended => openBrace_left_out lines nearly rfl split mended puts taken

end Spared

def callBehindOpen : List Segment := [.damaged .closePercent " a ", .plain " ", .call " g "]

def callBeforeUnopened : List Segment := [.call " g ", .damaged .openPercent "b"]

def crowdedLine : List Segment :=
  callBehindOpen ++ .plain " " :: .damaged .openPercent " b " :: callBeforeUnopened

def crowdedText : Text := "intro\n\x7b% a \x7d \x7b% g %\x7d \x7b b %\x7d\x7b% g %\x7d\x7bb%\x7d\n"

def crowdedPage : Page := ⟨"tutorial.md", splitLines crowdedText, [], fun _ => false⟩

theorem round_spares_calls_crowded :
    (∀ segment ∈ crowdedLine, segment.NearlySound) ∧
    linesOf crowdedText =
      [⟨"intro", .lineFeed⟩] ++ ⟨crowdedLine.flatMap Segment.text, .lineFeed⟩ :: [] ∧
    ∃ (repaired : Repair) (images : List Text) (rest : Text) (first second : Nat),
      repair crowdedText ((Rule.callDelimiters.check crowdedPage).filter
        (·.range.start.line == 2)) = some (repaired, 0) ∧
      repaired.text =
        ([Line.mk "intro" .lineFeed] ++ Line.mk (images.flatten ++ rest) .lineFeed :: []).flatMap
          Line.source ∧
      images.length = crowdedLine.length ∧
      ∀ before body after, crowdedLine = before ++ .call body :: after →
        (∃ image, images[before.length]? = some image ∧ callText body <:+: image) ∨
        (before.length = first ∧ EndsInCall (before.flatMap Segment.text)) ∨
        (before.length = second ∧ BeginsInCall (after.flatMap Segment.text) ∧
          ¬ MendedBehind before after) := by
  have nearly : ∀ segment ∈ crowdedLine, segment.NearlySound := by decide
  have lines : linesOf crowdedText =
      [⟨"intro", .lineFeed⟩] ++ ⟨crowdedLine.flatMap Segment.text, .lineFeed⟩ :: [] := by
    decide +kernel
  have pageLines : crowdedPage.lines = splitLines crowdedText := rfl
  exact ⟨nearly, lines, round_spares_calls crowdedPage nearly lines pageLines⟩

def roundOfLine (text : Text) : Option (Repair × Nat) :=
  repair text
    ((Rule.callDelimiters.check ⟨"tutorial.md", splitLines text, [], fun _ => false⟩).filter
      (·.range.start.line == 1))

theorem round_breaks_call :
    ((∀ segment ∈ callBehindOpen, segment.NearlySound) ∧ .call " g " ∈ callBehindOpen ∧
      roundOfLine (callBehindOpen.flatMap Segment.text) =
        some (⟨"\x7b% a %\x7d \x7b%\x7d g %\x7d", 2, 0⟩, 0) ∧
      ¬ callText " g " <:+: "\x7b% a %\x7d \x7b%\x7d g %\x7d".toList) ∧
    (∀ segment ∈ callBeforeUnopened, segment.NearlySound) ∧ .call " g " ∈ callBeforeUnopened ∧
      roundOfLine (callBeforeUnopened.flatMap Segment.text) =
        some (⟨"\x7b% g \x7b%\x7d\x7bb%\x7d", 1, 0⟩, 0) ∧
      ¬ callText " g " <:+: "\x7b% g \x7b%\x7d\x7bb%\x7d".toList := by
  refine ⟨⟨by decide, by decide, ?_, ?_⟩, by decide, by decide, ?_, ?_⟩
  all_goals decide +kernel

end CourseLint
