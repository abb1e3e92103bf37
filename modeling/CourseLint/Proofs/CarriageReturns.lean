import Mathlib.Data.List.Forall2
import CourseLint.Bibliography.Resolved
import CourseLint.Proofs.Round

set_option autoImplicit false

namespace CourseLint

namespace Text

def withReturns (text : Text) : Text := text.flatMap fun c => if c = '\n' then ['\r', '\n'] else [c]

@[simp] theorem withReturns_nil : withReturns [] = [] := rfl

@[simp] theorem withReturns_append (before after : Text) :
    withReturns (before ++ after) = withReturns before ++ withReturns after :=
  List.flatMap_append

@[simp] theorem withReturns_feed (rest : Text) :
    withReturns ('\n' :: rest) = '\r' :: '\n' :: withReturns rest := rfl

theorem withReturns_cons (c : Char) (rest : Text) (notFeed : c ≠ '\n') :
    withReturns (c :: rest) = c :: withReturns rest := by
  simp [withReturns, notFeed]

theorem withReturns_of_no_feed (text : Text) (noFeed : '\n' ∉ text) : withReturns text = text := by
  induction text with
  | nil => rfl
  | cons c text ih =>
    simp only [List.mem_cons, not_or] at noFeed
    rw [withReturns_cons c text (Ne.symm noFeed.1), ih noFeed.2]

theorem withReturns_ne_nil (text : Text) (nonempty : text ≠ []) : withReturns text ≠ [] := by
  cases text with
  | nil => exact absurd rfl nonempty
  | cons c rest =>
    by_cases feed : c = '\n'
    · simp [feed]
    · simp [withReturns_cons c rest feed]

theorem width_withReturns_le_iff {source first second : Text} (isFirst : first <+: source)
    (isSecond : second <+: source) :
    width (withReturns first) ≤ width (withReturns second) ↔ width first ≤ width second := by
  constructor
  · intro shorter
    by_contra longer
    obtain ⟨rest, rfl⟩ := prefix_of_width_le isSecond isFirst (by omega)
    have nonempty : rest ≠ [] := by
      rintro rfl
      simp at longer
    have more := mt (width_eq_zero_iff _).mp (withReturns_ne_nil rest nonempty)
    rw [withReturns_append, width_append] at shorter
    omega
  · intro shorter
    obtain ⟨rest, rfl⟩ := prefix_of_width_le isFirst isSecond shorter
    simp

end Text

open Text

def Line.withReturn (line : Line) : Line where
  text := line.text
  ending := match line.ending with
    | .lineFeed => .carriageReturnLineFeed
    | ending => ending

namespace Text

theorem extend_map_withReturn (c : Char) (lines : List Line) :
    Line.extend c (lines.map Line.withReturn) = (Line.extend c lines).map Line.withReturn := by
  cases lines <;> rfl

theorem linesOf_withReturns (text : Text) (noReturn : '\r' ∉ text) :
    linesOf (withReturns text) = (linesOf text).map Line.withReturn := by
  fun_induction linesOf text with
  | case1 => rfl
  | case2 rest ih =>
    have later : '\r' ∉ rest := fun member => noReturn (List.mem_cons_of_mem _ member)
    rw [withReturns_feed, linesOf, ih later, List.map_cons]
    rfl
  | case3 rest ih => exact absurd (List.mem_cons_self) noReturn
  | case4 c rest notFeed _ ih =>
    simp only [List.mem_cons, not_or] at noReturn
    rw [withReturns_cons c rest notFeed, linesOf_cons c _ notFeed fun _ => Ne.symm noReturn.1,
      ih noReturn.2, extend_map_withReturn]

theorem splitLines_withReturns (text : Text) (noReturn : '\r' ∉ text) :
    splitLines (withReturns text) = splitLines text := by
  rw [splitLines, splitLines, linesOf_withReturns text noReturn, List.map_map]
  rfl

theorem source_withReturn {text : Text} (noReturn : '\r' ∉ text) (line : Line)
    (member : line ∈ linesOf text) : line.withReturn.source = withReturns line.source := by
  have noFeed := (proper_of_mem_linesOf text line member).no_feed
  have inText (c : Char) (inLine : c ∈ line.source) : c ∈ text := by
    rw [← flatMap_source_linesOf text]
    exact List.mem_flatMap.mpr ⟨line, member, inLine⟩
  rw [Line.source, Line.source, withReturns_append, withReturns_of_no_feed line.text noFeed]
  cases ending : line.ending with
  | absent => simp [Line.withReturn, ending, Ending.text]
  | lineFeed => simp [Line.withReturn, ending, Ending.text]
  | carriageReturnLineFeed =>
    exact absurd (inText '\r' (by simp [Line.source, ending, Ending.text])) noReturn

theorem flatMap_source_withReturn {text : Text} (noReturn : '\r' ∉ text) (lines : List Line)
    (members : ∀ line ∈ lines, line ∈ linesOf text) :
    (lines.map Line.withReturn).flatMap Line.source = withReturns (lines.flatMap Line.source) := by
  induction lines with
  | nil => rfl
  | cons line lines ih =>
    rw [List.map_cons, List.flatMap_cons, List.flatMap_cons, withReturns_append,
      source_withReturn noReturn line (members line (by simp)),
      ih fun other member => members other (by simp [member])]

end Text

namespace Piece

variable {source : Text}

def withReturns (piece : Piece source) (noReturn : '\r' ∉ source) :
    Piece (Text.withReturns source) where
  before := piece.before.map Line.withReturn
  line := piece.line.withReturn
  after := piece.after.map Line.withReturn
  head := piece.head
  covered := piece.covered
  tail := piece.tail
  lines_eq := by simp [linesOf_withReturns source noReturn, piece.lines_eq]
  text_eq := piece.text_eq

variable (piece : Piece source) (noReturn : '\r' ∉ source)

theorem withReturns_span : (piece.withReturns noReturn).span = piece.span := by
  simp [span, withReturns, Line.withReturn]

theorem withReturns_front :
    (piece.withReturns noReturn).front = Text.withReturns piece.front := by
  have noFeed : '\n' ∉ piece.head := by
    intro feed
    exact piece.line_proper.no_feed (by simp [piece.text_eq, feed])
  rw [front, front, withReturns_append, withReturns_of_no_feed _ noFeed,
    ← flatMap_source_withReturn noReturn piece.before fun line member => by
      simp [piece.lines_eq, member]]
  rfl

theorem withReturns_swallowed :
    (piece.withReturns noReturn).swallowed = Text.withReturns piece.swallowed := by
  have sourceEq := source_withReturn noReturn piece.line (by simp [piece.lines_eq])
  rw [Line.source, Line.source, withReturns_append,
    withReturns_of_no_feed _ piece.line_proper.no_feed] at sourceEq
  have endings := List.append_cancel_left sourceEq
  by_cases atEnd : piece.tail = []
  · simpa [swallowed, withReturns, atEnd] using endings
  · simp [swallowed, withReturns, atEnd]

theorem withReturns_replaced :
    (piece.withReturns noReturn).replaced = Text.withReturns piece.replaced := by
  rw [replaced, replaced, withReturns_append, withReturns_swallowed,
    withReturns_of_no_feed _ piece.no_feed_covered]
  rfl

end Piece

namespace Edit

variable {source : Text}

def Twin (source : Text) (edit edit' : Edit) : Prop :=
  ∃ front replaced text, front ++ replaced <+: source ∧
    edit = ⟨width front, width (front ++ replaced), text⟩ ∧
    edit' = ⟨width (withReturns front), width (withReturns (front ++ replaced)), withReturns text⟩

theorem Twin.start_le_iff {edit edit' other other' : Edit} (twin : Twin source edit edit')
    (twin' : Twin source other other') : edit'.start ≤ other'.start ↔ edit.start ≤ other.start := by
  obtain ⟨front, replaced, text, within, rfl, rfl⟩ := twin
  obtain ⟨front', replaced', text', within', rfl, rfl⟩ := twin'
  exact width_withReturns_le_iff ((List.prefix_append _ _).trans within)
    ((List.prefix_append _ _).trans within')

theorem insertByStart_twin {edit edit' : Edit} {edits edits' : List Edit}
    (twin : Twin source edit edit') (twins : List.Forall₂ (Twin source) edits edits') :
    List.Forall₂ (Twin source) (insertByStart edit edits) (insertByStart edit' edits') := by
  induction twins with
  | nil => exact .cons twin .nil
  | @cons other other' others others' first rest ih =>
    simp only [insertByStart, first.start_le_iff twin]
    by_cases before : other.start ≤ edit.start
    · rw [if_pos before, if_pos before]
      exact .cons twin (.cons first rest)
    · rw [if_neg before, if_neg before]
      exact .cons first ih

theorem lastFirst_twin {edits edits' : List Edit}
    (twins : List.Forall₂ (Twin source) edits edits') :
    List.Forall₂ (Twin source) (lastFirst edits) (lastFirst edits') := by
  induction twins with
  | nil => exact .nil
  | cons first rest ih => exact insertByStart_twin first ih

def Progress.withReturns (progress : Progress) : Progress where
  untouched := Text.withReturns progress.untouched
  finished := Text.withReturns progress.finished
  applied := progress.applied
  skipped := progress.skipped

theorem Progress.step_twin {progress : Progress} {edit edit' : Edit}
    (within : progress.untouched <+: source) (twin : Twin source edit edit') :
    ∃ next, progress.step edit = some next ∧
      progress.withReturns.step edit' = some next.withReturns ∧ next.untouched <+: source := by
  obtain ⟨front, replaced, text, piece, rfl, rfl⟩ := twin
  -- The limit is a beginning of the source, and so is what the edit needs to find untouched.
  have sameOrder := width_withReturns_le_iff piece within
  by_cases beyond : width progress.untouched < width (front ++ replaced)
  · have beyond' : width progress.withReturns.untouched <
        width (Text.withReturns (front ++ replaced)) :=
      Nat.lt_of_not_le (mt sameOrder.mp (Nat.not_le_of_lt beyond))
    exact ⟨_, progress.step_skip _ beyond, progress.withReturns.step_skip _ beyond', within⟩
  · obtain ⟨between, untouched⟩ := prefix_of_width_le piece within (Nat.not_lt.mp beyond)
    have stepped := progress.step_apply ⟨width front, width (front ++ replaced), text⟩
      untouched.symm rfl rfl
    have untouched' : progress.withReturns.untouched = Text.withReturns front ++
        Text.withReturns replaced ++ Text.withReturns between := by
      simp [withReturns, ← untouched]
    have stepped' := progress.withReturns.step_apply ⟨width (Text.withReturns front),
      width (Text.withReturns (front ++ replaced)), Text.withReturns text⟩ untouched' rfl (by simp)
    refine ⟨_, stepped, ?_, (List.prefix_append _ _).trans piece⟩
    rw [stepped']
    simp [withReturns]

theorem Progress.foldlM_twin {edits edits' : List Edit}
    (twins : List.Forall₂ (Twin source) edits edits') {progress : Progress}
    (within : progress.untouched <+: source) :
    ∃ final, edits.foldlM Progress.step progress = some final ∧
      edits'.foldlM Progress.step progress.withReturns = some final.withReturns := by
  induction twins generalizing progress with
  | nil => exact ⟨progress, rfl, rfl⟩
  | cons first rest ih =>
    obtain ⟨next, stepped, stepped', stillWithin⟩ := Progress.step_twin within first
    obtain ⟨final, run, run'⟩ := ih stillWithin
    refine ⟨final, ?_, ?_⟩
    · rw [List.foldlM_cons, stepped]
      exact run
    · rw [List.foldlM_cons, stepped']
      exact run'

theorem applyAll_twin {edits edits' : List Edit}
    (twins : List.Forall₂ (Twin source) edits edits') :
    ∃ repaired, applyAll source edits = some repaired ∧
      applyAll (withReturns source) edits' =
        some ⟨withReturns repaired.text, repaired.applied, repaired.skipped⟩ := by
  obtain ⟨final, run, run'⟩ := Progress.foldlM_twin (lastFirst_twin twins)
    (show (⟨source, [], 0, 0⟩ : Progress).untouched <+: source from List.prefix_rfl)
  refine ⟨⟨final.untouched ++ final.finished, final.applied, final.skipped⟩, ?_, ?_⟩
  · simp only [applyAll, run]
    rfl
  · rw [withReturns_append]
    change ((lastFirst edits').foldlM Progress.step
      (⟨source, [], 0, 0⟩ : Progress).withReturns).bind _ = _
    rw [run']
    rfl

theorem twin_piece (piece : Piece source) (noReturn : '\r' ∉ source) {replacement : Text}
    (noFeed : '\n' ∉ replacement) :
    Twin source (piece.edit replacement) ((piece.withReturns noReturn).edit replacement) := by
  refine ⟨piece.front, piece.replaced, replacement ++ piece.swallowed, ⟨_, piece.source_eq.symm⟩,
    rfl, ?_⟩
  rw [Piece.edit, piece.withReturns_front, piece.withReturns_replaced, piece.withReturns_swallowed,
    withReturns_append, withReturns_append, withReturns_of_no_feed replacement noFeed]

end Edit

section Diagnostics

variable {source : Text} {diagnostics : List Diagnostic}

theorem Diagnostic.Repairs.withReturns {diagnostic : Diagnostic} {piece : Piece source}
    {replacement : Text} (repairs : diagnostic.Repairs piece replacement)
    (noReturn : '\r' ∉ source) : diagnostic.Repairs (piece.withReturns noReturn) replacement where
  asks := by
    rw [piece.withReturns_span noReturn]
    exact repairs.asks
  rewrites := repairs.rewrites

theorem Repairable.twins (repairable : Repairable source diagnostics) (noReturn : '\r' ∉ source) :
    List.Forall₂ (Edit.Twin source) (Edit.suggested source diagnostics)
      (Edit.suggested (withReturns source) diagnostics) := by
  obtain ⟨repairs, -⟩ := repairable
  induction diagnostics with
  | nil => exact .nil
  | cons diagnostic diagnostics ih =>
    have rest := ih fun other member => repairs other (by simp [member])
    rcases repairs diagnostic (by simp) with none | ⟨piece, replacement, asked⟩
    · rw [Edit.suggested_cons_none none, Edit.suggested_cons_none none]
      exact rest
    · have noFeed := asked.rewrites.no_feed piece.no_feed_covered
      rw [Edit.suggested_cons_some asked.placed,
        Edit.suggested_cons_some (asked.withReturns noReturn).placed]
      exact .cons (Edit.twin_piece piece noReturn noFeed) rest

end Diagnostics

theorem round_commutes_withReturns [Bibliography.Reader] [Pattern.Engine] (names : List Text)
    (fileExists : Text → Bool) (path : Path)
    (markup : FileKind.ofPath path = .markup) (source : Text) (noReturn : '\r' ∉ source) :
    ∃ diagnostics repaired,
      lint (Registry.builtins.disable names).1 fileExists path source = .ok diagnostics ∧
      lint (Registry.builtins.disable names).1 fileExists path (withReturns source) =
        .ok diagnostics ∧
      repair source diagnostics = some (repaired, 0) ∧
      repair (withReturns source) diagnostics =
        some (⟨withReturns repaired.text, repaired.applied, repaired.skipped⟩, 0) := by
  obtain ⟨diagnostics, linted, repairable⟩ := lint_markup names fileExists markup source
  obtain ⟨diagnostics', linted', repairable'⟩ :=
    lint_markup names fileExists markup (withReturns source)
  -- The rules see the lines without their endings.
  have sameDiagnostics : diagnostics' = diagnostics := by
    rw [lint_markup_eq _ fileExists markup, splitLines_withReturns source noReturn,
      ← lint_markup_eq _ fileExists markup, linted] at linted'
    exact (Except.ok.inj linted').symm
  subst sameDiagnostics
  obtain ⟨repaired, result, result'⟩ := Edit.applyAll_twin (repairable.twins noReturn)
  exact ⟨diagnostics', repaired, linted, linted', repair_eq repairable.ofDiagnostics_eq result,
    repair_eq repairable'.ofDiagnostics_eq result'⟩

theorem round_commutes_withReturns_two_lines :
    FileKind.ofPath ("tutorial.md" : Text) = .markup ∧ '\r' ∉ "see [here]\nlast".toList ∧
      ∃ diagnostics repaired,
        lint (Registry.builtins.disable []).1 (fun _ => false) "tutorial.md"
          "see [here]\nlast".toList = .ok diagnostics ∧
        repair "see [here]\nlast".toList diagnostics = some (repaired, 0) ∧
        repair "see [here]\r\nlast".toList diagnostics =
          some (⟨withReturns repaired.text, repaired.applied, repaired.skipped⟩, 0) := by
  have markup : FileKind.ofPath ("tutorial.md" : Text) = .markup := by decide
  have noReturn : '\r' ∉ "see [here]\nlast".toList := by decide
  obtain ⟨diagnostics, repaired, linted, -, result, result'⟩ :=
    round_commutes_withReturns [] (fun _ => false) "tutorial.md" markup _ noReturn
  exact ⟨markup, noReturn, diagnostics, repaired, linted, result, result'⟩

end CourseLint
