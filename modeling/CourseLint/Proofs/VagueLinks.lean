import CourseLint.Proofs.Application
import CourseLint.Proofs.CaseFolding
import CourseLint.Proofs.Cuts
import CourseLint.Proofs.LineLocality

set_option autoImplicit false

namespace CourseLint

open Text

structure VagueLink where
  leading : Text
  word : Text
  trailing : Text
  blankLeading : ∀ c ∈ leading, isBlankChar c = true
  saysNothing : foldCase word = "here" ∨ foldCase word = "link"
  blankTrailing : ∀ c ∈ trailing, isBlankChar c = true

namespace VagueLink

def inner (link : VagueLink) : Text := link.leading ++ link.word ++ link.trailing

def text (link : VagueLink) : Text := '[' :: link.inner ++ [']']

structure FirstOn (line before : Text) (link : VagueLink) : Prop where
  onLine : ∃ after, line = before ++ link.text ++ after
  first : ∀ before' link' after', line = before' ++ text link' ++ after' →
    before.length < before'.length ∨ before' = before ∧ link'.text = link.text

variable (link : VagueLink)

theorem mem_caseForms : ∀ c ∈ link.word, c ∈ Casing.caseForms := by
  cases link.saysNothing with
  | inl here => exact mem_caseForms_of_foldCase (by decide) here
  | inr isLink => exact mem_caseForms_of_foldCase (by decide) isLink

theorem word_ne_nil : link.word ≠ [] := by
  intro empty
  have folds := link.saysNothing
  simp [empty, foldCase] at folds

theorem not_blank_head_word (back : Text) :
    ∀ c ∈ (link.word ++ back).head?, isBlankChar c = false := by
  obtain ⟨c, rest, opens⟩ := List.exists_cons_of_ne_nil link.word_ne_nil
  have form := link.mem_caseForms c (by simp [opens])
  simpa [opens] using not_blank_of_mem_caseForms form

theorem no_close_inner : ']' ∉ link.inner := by
  have close : isBlankChar ']' ≠ true ∧ ']' ∉ Casing.caseForms := by decide
  simp only [inner, List.mem_append, not_or]
  refine ⟨⟨?_, ?_⟩, ?_⟩
  · exact fun member => close.1 (link.blankLeading _ member)
  · exact fun member => close.2 (link.mem_caseForms _ member)
  · exact fun member => close.1 (link.blankTrailing _ member)

theorem fits_words {before after : Text} (word : Text) :
    (Pattern.either (Pattern.anyCase "here") (Pattern.anyCase "link")).Fits before word after [] ↔
      foldCase word = "here" ∨ foldCase word = "link" := by
  have here := @readsAs_iff "here" word (by decide)
  have isLink := @readsAs_iff "link" word (by decide)
  simp only [Pattern.Fits, Pattern.fits_anyCase_iff, here, isLink, and_true]

theorem fits_iff {before covered after : Text} {captures : List Capture} :
    Pattern.badLinkText.Fits before covered after captures ↔
      (∃ link : VagueLink, covered = link.text) ∧ captures = [] := by
  constructor
  · intro fits
    have plain : captures = [] := Pattern.captures_eq_nil (by decide) fits
    obtain rfl := plain
    obtain ⟨_, close, rfl, toClose, isClose⟩ := fits.peel (by decide)
    obtain ⟨_, trailing, rfl, toTrailing, isTrailing⟩ := toClose.peel (by decide)
    obtain ⟨_, word, rfl, toWord, isWord⟩ := toTrailing.peel (by decide)
    obtain ⟨opening, leading, rfl, isOpening, isLeading⟩ := toWord.peel (by decide)
    obtain ⟨rfl, -⟩ := (Pattern.fits_literal _ _ _ _ _).mp isOpening
    obtain ⟨rfl, -⟩ := (Pattern.fits_literal _ _ _ _ _).mp isClose
    obtain ⟨blankLeading, -⟩ := (Pattern.fits_whole _).mp isLeading
    obtain ⟨blankTrailing, -⟩ := (Pattern.fits_whole _).mp isTrailing
    have saysNothing := (fits_words word).mp isWord
    refine ⟨⟨⟨leading, word, trailing, blankLeading, saysNothing, blankTrailing⟩, ?_⟩, rfl⟩
    simp [text, inner]
  · intro parts
    obtain ⟨⟨link, rfl⟩, rfl⟩ := parts
    have opening : (Pattern.literal "[").Fits before ['[']
        (link.leading ++ (link.word ++ (link.trailing ++ (']' :: after)))) [] :=
      Pattern.fits_word _ _ _
    have isLeading : Pattern.blanks.Fits (before ++ ['[']) link.leading
        (link.word ++ (link.trailing ++ (']' :: after))) [] :=
      (Pattern.fits_whole _).mpr ⟨link.blankLeading, link.not_blank_head_word _, rfl⟩
    have isWord : (Pattern.either (Pattern.anyCase "here") (Pattern.anyCase "link")).Fits
        (before ++ (['['] ++ link.leading)) link.word (link.trailing ++ (']' :: after)) [] :=
      (fits_words link.word).mpr link.saysNothing
    have isTrailing : Pattern.blanks.Fits (before ++ (['['] ++ link.leading ++ link.word))
        link.trailing (']' :: after) [] :=
      (Pattern.fits_whole _).mpr ⟨link.blankTrailing, by simp [isBlankChar], rfl⟩
    have isClose : (Pattern.literal "]").Fits
        (before ++ (['['] ++ link.leading ++ link.word ++ link.trailing)) [']'] after [] :=
      Pattern.fits_word _ _ _
    have whole := (((opening.append isLeading).append isWord).append isTrailing).append isClose
    have sameText : link.text =
        ['['] ++ link.leading ++ link.word ++ link.trailing ++ [']'] := by
      simp [text, inner]
    rw [sameText]
    exact whole

theorem text_eq_of_append {link link' : VagueLink} {after after' : Text}
    (same : link.text ++ after = link'.text ++ after') : link'.text = link.text := by
  have fromInner : link.inner ++ ']' :: after = link'.inner ++ ']' :: after' := by
    simpa [text] using same
  have sameInner := (cut_at_first link.no_close_inner link'.no_close_inner fromInner).1
  simp [text, sameInner]

variable {line before after : Text} {occurrence : Occurrence}

theorem firstOn_of_start_le {link : VagueLink} (parts : line = before ++ link.text ++ after)
    (leftmost : ∀ before' link' after', line = before' ++ text link' ++ after' →
      width before ≤ width before') : FirstOn line before link := by
  constructor
  case onLine => exact ⟨after, parts⟩
  case first =>
    intro before' link' after' parts'
    have start := leftmost before' link' after' parts'
    have isFront : before <+: line := ⟨_, by rw [parts, List.append_assoc]⟩
    have isFront' : before' <+: line := ⟨_, by rw [parts', List.append_assoc]⟩
    obtain ⟨gap, rfl⟩ := prefix_of_width_le isFront isFront' start
    cases gap with
    | nil =>
      rw [parts, List.append_nil, List.append_assoc, List.append_assoc] at parts'
      exact .inr ⟨by simp, text_eq_of_append (List.append_cancel_left parts')⟩
    | cons c gap => exact .inl (by simp)

theorem exists_firstOn (member : occurrence ∈ Pattern.badLinkText.firstOccurrences [line]) :
    ∃ before link, FirstOn line before link ∧
      occurrence.span = ⟨0, line, width before, width (before ++ link.text)⟩ := by
  obtain ⟨lineIndex, before, covered, after, captures, present, fits, rfl⟩ :=
    Pattern.exists_fit_of_mem_firstOccurrencesWhere member
  obtain ⟨⟨link, rfl⟩, rfl⟩ := fits_iff.mp fits
  cases lineIndex with
  | succ lineIndex => simp at present
  | zero =>
    have parts : line = before ++ link.text ++ after := by simpa using present
    rw [← parts] at member ⊢
    refine ⟨before, link, firstOn_of_start_le parts ?_, rfl⟩
    intro before' link' after' parts'
    have fits' := (@fits_iff before' link'.text after' []).mpr ⟨⟨link', rfl⟩, rfl⟩
    obtain ⟨first, alone, leftmost⟩ := Pattern.exists_firstOccurrence fits'
    rw [← parts'] at alone
    rw [alone, List.mem_singleton] at member
    rwa [← member] at leftmost

end VagueLink

namespace Rule

variable (page : Page) {lineIndex : Nat} {line : Text}

theorem exists_linkText_report (present : page.lines[lineIndex]? = some line) :
    ∃ report : Occurrence → Diagnostic,
      (∀ occurrence, (report occurrence).range = (occurrence.span.shift lineIndex).range) ∧
      (linkText.check page).filter (·.range.start.line == lineIndex + 1) =
        (Pattern.badLinkText.firstOccurrences [line]).map report := by
  have builtin : linkText ∈ Registry.builtinRules := by simp [Registry.builtinRules]
  have here := check_atLine builtin rfl (by decide) page present
  refine ⟨_, ?_, here.trans List.map_map⟩
  intro occurrence
  rw [Function.comp_apply, diagnose_eq]
  rfl

theorem linkText_reports_first_vague_link (present : page.lines[lineIndex]? = some line) :
    ((∃ diagnostic ∈ linkText.check page, diagnostic.range.start.line = lineIndex + 1) ↔
      ∃ before after, ∃ link : VagueLink, line = before ++ link.text ++ after) ∧
    (∀ diagnostic ∈ linkText.check page, diagnostic.range.start.line = lineIndex + 1 →
      ∃ before link, VagueLink.FirstOn line before link ∧
        diagnostic.range =
          Span.range ⟨lineIndex, line, width before, width (before ++ link.text)⟩) ∧
    ((linkText.check page).filter (·.range.start.line == lineIndex + 1)).length ≤ 1 := by
  obtain ⟨report, range, here⟩ := exists_linkText_report page present
  have mem_here (diagnostic : Diagnostic) :
      diagnostic ∈ linkText.check page ∧ diagnostic.range.start.line = lineIndex + 1 ↔
        ∃ occurrence ∈ Pattern.badLinkText.firstOccurrences [line],
          report occurrence = diagnostic := by
    rw [← List.mem_map, ← here, List.mem_filter, beq_iff_eq]
  refine ⟨⟨?_, ?_⟩, ?_, ?_⟩
  case refine_1 =>
    intro reported
    obtain ⟨diagnostic, member, onLine⟩ := reported
    obtain ⟨occurrence, found, -⟩ := (mem_here diagnostic).mp ⟨member, onLine⟩
    obtain ⟨before, link, isFirst, -⟩ := VagueLink.exists_firstOn found
    obtain ⟨after, parts⟩ := isFirst.onLine
    exact ⟨before, after, link, parts⟩
  case refine_2 =>
    intro contains
    obtain ⟨before, after, link, rfl⟩ := contains
    have fits := (@VagueLink.fits_iff before link.text after []).mpr ⟨⟨link, rfl⟩, rfl⟩
    obtain ⟨occurrence, alone, -⟩ := Pattern.exists_firstOccurrence fits
    have found : occurrence ∈
        Pattern.badLinkText.firstOccurrences [before ++ link.text ++ after] := by
      rw [alone]
      exact List.mem_singleton_self occurrence
    exact ⟨report occurrence, (mem_here _).mpr ⟨occurrence, found, rfl⟩⟩
  case refine_3 =>
    intro diagnostic member onLine
    obtain ⟨occurrence, found, rfl⟩ := (mem_here diagnostic).mp ⟨member, onLine⟩
    obtain ⟨before, link, isFirst, span⟩ := VagueLink.exists_firstOn found
    refine ⟨before, link, isFirst, ?_⟩
    simp [range, span, Span.shift]
  case refine_4 =>
    rw [here, Pattern.firstOccurrences_singleton, List.length_map]
    cases (Pattern.badLinkText.matchesOf line).head? <;> simp

def kelvinLink : VagueLink where
  leading := ['\u00A0']
  word := "LIN\u212A"
  trailing := " "
  blankLeading := List.all_eq_true.mp rfl
  saysNothing := by decide +kernel
  blankTrailing := List.all_eq_true.mp rfl

def twoLinks : Text := "see " ++ kelvinLink.text ++ " or [here]"

def linkedPage : Page := ⟨"tutorial.md", ["[where it is]", twoLinks], [], fun _ => false⟩

theorem linkText_reports_first_of_two_links :
    linkedPage.lines[1]? = some twoLinks ∧
    ∃ diagnostic ∈ linkText.check linkedPage,
      diagnostic.range.start.line = 2 ∧ diagnostic.range = ⟨⟨2, 5⟩, ⟨2, 16⟩⟩ := by
  have present : linkedPage.lines[1]? = some twoLinks := rfl
  obtain ⟨contains, -, -⟩ := linkText_reports_first_vague_link linkedPage present
  obtain ⟨diagnostic, member, onLine⟩ := contains.mpr ⟨"see ", " or [here]", kelvinLink, rfl⟩
  have ranges : (linkText.check linkedPage).map Diagnostic.range = [⟨⟨2, 5⟩, ⟨2, 16⟩⟩] := by
    decide +kernel
  have range : diagnostic.range ∈ (linkText.check linkedPage).map Diagnostic.range :=
    List.mem_map_of_mem member
  rw [ranges, List.mem_singleton] at range
  exact ⟨present, diagnostic, member, onLine, range⟩

end Rule

end CourseLint
