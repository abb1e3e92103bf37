import CourseLint.Proofs.Accounts
import CourseLint.Proofs.Placement

set_option autoImplicit false

namespace CourseLint

open Text

inductive Position.LeadsTo (source : Text) : Position → Nat → Prop where
  | counted (lineIndex column offset : Nat) (named : lineIndex < (namedLines source).length)
      (counts : offset = lineStart source lineIndex + column)
      (cut : ∃ before after, source = before ++ after ∧ width before = offset) :
      LeadsTo source ⟨lineIndex + 1, column + 1⟩ offset
  | behind : LeadsTo source ⟨(namedLines source).length + 1, 1⟩ (width source)

inductive OnNamedLine (source : Text) : Nat → Nat → Prop where
  | inside (lineIndex offset : Nat) (line : Line)
      (named : (namedLines source)[lineIndex]? = some line)
      (start : lineStart source lineIndex ≤ offset)
      (stop : offset ≤ lineStart source lineIndex + width line.text) :
      OnNamedLine source lineIndex offset
  | behind : OnNamedLine source (namedLines source).length (width source)

theorem OnNamedLine.le_line_end {source : Text} {lineIndex offset : Nat} {line : Line}
    (onLine : OnNamedLine source lineIndex offset)
    (named : (namedLines source)[lineIndex]? = some line) :
    offset ≤ lineStart source lineIndex + width line.text := by
  cases onLine with
  | inside _ _ line' named' start stop =>
    cases named.symm.trans named'
    exact stop
  | behind => simp at named

theorem Edit.offsetOf?_eq_some_iff {source : Text} {position : Position} {offset : Nat} :
    Edit.offsetOf? source position = some offset ↔ position.LeadsTo source offset := by
  constructor
  · intro found
    obtain ⟨before, after, isCut⟩ := Edit.cuts_of_offsetOf? found
    have cut := (splitAtByte?_eq_some_iff _ _ _ _).mp isCut
    have checked {reached : Nat}
        (same : ((splitAtByte? source reached).bind fun _ => some reached) = some offset) :
        reached = offset := by
      obtain ⟨_, -, isOffset⟩ := Option.bind_eq_some_iff.mp same
      exact Option.some.inj isOffset
    obtain ⟨number, place⟩ := position
    unfold Edit.offsetOf? at found
    split at found
    case h_1 lineIndex column isNumber isPlace =>
      dsimp only at isNumber isPlace
      rw [isNumber, isPlace]
      dsimp only [Option.bind_eq_bind] at found
      split at found
      case h_1 start begins =>
        have within : lineIndex < (namedLines source).length := by
          rw [← length_lineStarts_eq]
          exact (List.getElem?_eq_some_iff.mp begins).1
        cases begins.symm.trans (getElem?_lineStarts_eq within)
        exact .counted lineIndex column offset within (checked found).symm ⟨before, after, cut⟩
      case h_2 =>
        split at found
        · next isEnd =>
          obtain ⟨rfl, rfl⟩ := isEnd
          rw [← checked found, length_lineStarts_eq]
          exact .behind
        · cases found
    case h_2 => cases found
  · intro leads
    cases leads with
    | counted lineIndex column _ named counts cut =>
      obtain ⟨before, after, cut⟩ := cut
      have isCut := (splitAtByte?_eq_some_iff _ _ _ _).mpr cut
      rw [counts] at isCut ⊢
      exact Edit.offsetOf?_of_start (getElem?_lineStarts_eq named) isCut
    | behind => exact Edit.offsetOf?_behind (length_lineStarts_eq source)

section Reached

variable {source : Text} {lineIndex column offset : Nat}
  (leads : Position.LeadsTo source ⟨lineIndex + 1, column + 1⟩ offset)
include leads

theorem onNamedLine_iff :
    OnNamedLine source lineIndex offset ↔
      ∀ line, (namedLines source)[lineIndex]? = some line → column ≤ width line.text := by
  cases leads with
  | counted _ _ _ within counts =>
    have named := List.getElem?_eq_getElem within
    constructor
    · intro onLine line isLine
      have bound := onLine.le_line_end isLine
      omega
    · intro inside
      have bound := inside _ named
      apply OnNamedLine.inside lineIndex _ _ named <;> omega
  | behind =>
    constructor
    · intro _ line named
      simp at named
    · exact fun _ => .behind

theorem past_line_end {line : Line} (named : (namedLines source)[lineIndex]? = some line)
    (past : width line.text < column) :
    lineIndex + 1 < (namedLines source).length ∧ lineStart source (lineIndex + 1) ≤ offset ∨
      line.ending = .carriageReturnLineFeed ∧ offset + 1 = lineStart source (lineIndex + 1) := by
  cases leads with
  | counted _ _ _ within counts cut =>
    obtain ⟨before, after, cut, reached⟩ := cut
    have next := lineStart_succ named
    have last := isOpen_iff_last named
    have inSource : width before ≤ width source := by simp [cut]
    cases ending : line.ending with
    | absent =>
      have isLast := last.mp ending
      rw [isLast, lineStart_length] at next
      simp [Line.source, ending, Ending.text] at next
      omega
    | lineFeed =>
      have notLast : lineIndex + 1 ≠ (namedLines source).length := by simp [← last, ending]
      have size : width line.source = width line.text + 1 := by
        rw [Line.source, ending, width_append]
        rfl
      left
      omega
    | carriageReturnLineFeed =>
      have notLast : lineIndex + 1 ≠ (namedLines source).length := by simp [← last, ending]
      have size : width line.source = width line.text + 2 := by
        rw [Line.source, ending, width_append]
        rfl
      simp only [true_and]
      omega
  | behind => simp at named

end Reached

namespace Edit

variable {source : Text} {edit : Edit}

theorem ofSuggestion?_eq_some_iff {suggestion : Suggestion} :
    ofSuggestion? source suggestion = some edit ↔
      suggestion.range.start.LeadsTo source edit.start ∧
        suggestion.range.stop.LeadsTo source edit.stop ∧ edit.start ≤ edit.stop ∧
        ∃ before, before <+: source ∧ width before = edit.stop ∧
          edit.text = adaptEnding before suggestion.text := by
  constructor
  · intro placed
    simp only [ofSuggestion?, Option.bind_eq_bind, Option.bind_eq_some_iff] at placed
    obtain ⟨start, foundStart, stop, foundStop, ⟨before, after⟩, isCut, built⟩ := placed
    have cut := (splitAtByte?_eq_some_iff _ _ _ _).mp isCut
    split at built
    · next forward =>
      obtain rfl := Option.some.inj built
      exact ⟨offsetOf?_eq_some_iff.mp foundStart, offsetOf?_eq_some_iff.mp foundStop, forward,
        before, ⟨after, cut.1.symm⟩, cut.2, rfl⟩
    · cases built
  · intro asked
    obtain ⟨leadsStart, leadsStop, forward, before, isFront, reached, text⟩ := asked
    obtain ⟨before', isFront', reached', placed⟩ := ofSuggestion?_eq_some
      (offsetOf?_eq_some_iff.mpr leadsStart) (offsetOf?_eq_some_iff.mpr leadsStop) forward
    have same : before' = before := eq_of_width_eq isFront' isFront (reached'.trans reached.symm)
    rw [placed, same, ← text]

theorem mem_ofDiagnostics_iff {diagnostics : List Diagnostic} :
    edit ∈ (ofDiagnostics source diagnostics).1 ↔
      ∃ suggestion ∈ diagnostics.filterMap Diagnostic.suggestion,
        ofSuggestion? source suggestion = some edit := by
  simp [ofDiagnostics]

end Edit

theorem edits_count_on_past_line_ends (source : Text) (diagnostics : List Diagnostic) :
    (∀ edit, edit ∈ (Edit.ofDiagnostics source diagnostics).1 ↔
      ∃ suggestion ∈ diagnostics.filterMap Diagnostic.suggestion,
        suggestion.range.start.LeadsTo source edit.start ∧
        suggestion.range.stop.LeadsTo source edit.stop ∧ edit.start ≤ edit.stop ∧
        ∃ before, before <+: source ∧ width before = edit.stop ∧
          edit.text = Edit.adaptEnding before suggestion.text) ∧
    (Edit.ofDiagnostics source diagnostics).1.length + (Edit.ofDiagnostics source diagnostics).2 =
      (diagnostics.filterMap Diagnostic.suggestion).length ∧
    ∀ lineIndex column offset, Position.LeadsTo source ⟨lineIndex + 1, column + 1⟩ offset →
      (OnNamedLine source lineIndex offset ↔
        ∀ line, (namedLines source)[lineIndex]? = some line → column ≤ width line.text) ∧
      ∀ line, (namedLines source)[lineIndex]? = some line → width line.text < column →
        lineIndex + 1 < (namedLines source).length ∧ lineStart source (lineIndex + 1) ≤ offset ∨
          line.ending = .carriageReturnLineFeed ∧
            offset + 1 = lineStart source (lineIndex + 1) := by
  refine ⟨?_, Edit.length_ofDiagnostics source diagnostics, ?_⟩
  · intro edit
    rw [Edit.mem_ofDiagnostics_iff]
    simp only [Edit.ofSuggestion?_eq_some_iff]
  · intro lineIndex column offset leads
    constructor
    · exact onNamedLine_iff leads
    · exact fun line named past => past_line_end leads named past

def returnSource : Text := "Hi\r\nthere"

def returnSuggestion : Suggestion := ⟨"!", ⟨⟨1, 3⟩, ⟨1, 4⟩⟩⟩

def returnDiagnostic : Diagnostic :=
  { Diagnostic.warning "tutorial.md" ⟨0, "Hi ", 2, 3⟩ "Mark" with
    suggestion := some returnSuggestion }

theorem edits_count_on_past_line_ends_into_ending :
    Position.LeadsTo returnSource ⟨1, 3⟩ 2 ∧ Position.LeadsTo returnSource ⟨1, 4⟩ 3 ∧
    ⟨2, 3, ['!']⟩ ∈ (Edit.ofDiagnostics returnSource [returnDiagnostic]).1 ∧
    OnNamedLine returnSource 0 2 ∧ ¬ OnNamedLine returnSource 0 3 ∧
    3 + 1 = lineStart returnSource 1 := by
  have atStart : Position.LeadsTo returnSource ⟨1, 3⟩ 2 :=
    Edit.offsetOf?_eq_some_iff.mp (by decide)
  have atStop : Position.LeadsTo returnSource ⟨1, 4⟩ 3 :=
    Edit.offsetOf?_eq_some_iff.mp (by decide)
  have named : (namedLines returnSource)[0]? = some ⟨"Hi", .carriageReturnLineFeed⟩ := by decide
  obtain ⟨edits, -, places⟩ := edits_count_on_past_line_ends returnSource [returnDiagnostic]
  obtain ⟨onStart, -⟩ := places 0 2 2 atStart
  obtain ⟨onStop, past⟩ := places 0 3 3 atStop
  refine ⟨atStart, atStop, ?_, ?_, ?_, ?_⟩
  · apply (edits _).mpr
    exact ⟨returnSuggestion, List.mem_singleton_self _, atStart, atStop, by decide,
      "Hi\r", ⟨"\nthere", rfl⟩, rfl, by decide⟩
  · apply onStart.mpr
    simp [named, width]
    decide
  · intro onLine
    exact absurd (onStop.mp onLine _ named) (by decide)
  · cases past _ named (by decide) with
    | inl later => exact absurd later.2 (by decide)
    | inr inside => exact inside.2

def staleSource : Text := "Hi\nSee the manual.\n"

def staleDiagnostic : Diagnostic :=
  (Diagnostic.warning "tutorial.md" ⟨0, "Click [here].", 6, 12⟩ "Vague").withReplacement
    "[Something better here]"

theorem stale_suggestion_edits_later_line :
    staleDiagnostic.range = ⟨⟨1, 7⟩, ⟨1, 13⟩⟩ ∧
    (namedLines staleSource)[0]? = some ⟨"Hi", .lineFeed⟩ ∧
    Edit.ofDiagnostics staleSource [staleDiagnostic] =
      ([⟨6, 12, "[Something better here]"⟩], 0) ∧
    lineStart staleSource 1 = 3 ∧ ¬ OnNamedLine staleSource 0 6 ∧ ¬ OnNamedLine staleSource 0 12 ∧
    Edit.applyAll staleSource [⟨6, 12, "[Something better here]"⟩] =
      some ⟨"Hi\nSee[Something better here]anual.\n".toList, 1, 0⟩ := by
  have named : (namedLines staleSource)[0]? = some ⟨"Hi", .lineFeed⟩ := by decide
  have away (offset : Nat) (late : 2 < offset) : ¬ OnNamedLine staleSource 0 offset := by
    intro onLine
    have bound : offset ≤ 2 := onLine.le_line_end named
    omega
  exact ⟨by decide, named, by decide, by decide, away 6 (by decide), away 12 (by decide), by decide⟩

end CourseLint
