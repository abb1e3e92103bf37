import CourseLint.Bibliography.Resolved
import CourseLint.Proofs.Round

set_option autoImplicit false

namespace CourseLint

open Text

structure SameLinesBut (touched : Nat → Prop) (before after : List Line) : Prop where
  endings : after.map Line.ending = before.map Line.ending
  texts : ∀ lineIndex, ¬ touched lineIndex → after[lineIndex]? = before[lineIndex]?

namespace SameLinesBut

variable {touched : Nat → Prop}

theorem refl (lines : List Line) : SameLinesBut touched lines lines :=
  ⟨rfl, fun _ _ => rfl⟩

theorem trans {first second third : List Line} (one : SameLinesBut touched first second)
    (other : SameLinesBut touched second third) : SameLinesBut touched first third where
  endings := other.endings.trans one.endings
  texts lineIndex untouched :=
    (other.texts lineIndex untouched).trans (one.texts lineIndex untouched)

theorem mono {touched' : Nat → Prop} {before after : List Line}
    (same : SameLinesBut touched before after)
    (wider : ∀ lineIndex, touched lineIndex → touched' lineIndex) :
    SameLinesBut touched' before after :=
  ⟨same.endings, fun lineIndex untouched => same.texts lineIndex (mt (wider lineIndex) untouched)⟩

theorem of_one_line {lines : List Line} {text text' : Text} {ending : Ending} {after : List Line}
    (touches : touched lines.length) :
    SameLinesBut touched (lines ++ ⟨text, ending⟩ :: after) (lines ++ ⟨text', ending⟩ :: after) where
  endings := by simp
  texts := by
    intro lineIndex untouched
    have elsewhere : lineIndex ≠ lines.length := fun same => untouched (same ▸ touches)
    rcases Nat.lt_or_gt_of_ne elsewhere with before | behind
    · rw [List.getElem?_append_left before, List.getElem?_append_left before]
    · obtain ⟨distance, rfl⟩ : ∃ distance, lineIndex = lines.length + (distance + 1) :=
        ⟨lineIndex - lines.length - 1, by omega⟩
      rw [List.getElem?_append_right (by omega), List.getElem?_append_right (by omega)]
      simp

end SameLinesBut

namespace Edit

variable {source : Text}

def StartsOn (source : Text) (edit : Edit) (lineIndex : Nat) : Prop :=
  ∃ start line, (lineStarts source)[lineIndex]? = some start ∧
    (linesOf source)[lineIndex]? = some line ∧
    start ≤ edit.start ∧ edit.start ≤ start + width line.text

theorem startsOn_piece (piece : Piece source) (replacement : Text) :
    (piece.edit replacement).StartsOn source piece.before.length := by
  refine ⟨_, piece.line, piece.getElem?_lineStarts, by simp [piece.lines_eq], ?_, ?_⟩
  · simp [Piece.edit, Piece.front]
  · simp only [Piece.edit, Piece.front, piece.text_eq, width_append]
    omega

theorem Rewriting.sameLines {edit : Edit} {text result : Text}
    (rewriting : Rewriting source edit text result) :
    SameLinesBut (edit.StartsOn source) (linesOf text) (linesOf result) := by
  obtain ⟨piece, replacement, behind, rfl, rfl, rfl, rewrites, feed, -⟩ := rewriting
  have noFeed : '\n' ∉ piece.head ++ piece.covered := by
    intro isFeed
    exact piece.line_proper.no_feed (by rw [piece.text_eq]; exact List.mem_append_left _ isFeed)
  have noReturn : behind.head? = some '\n' → (piece.head ++ piece.covered).getLast? ≠ some '\r' := by
    intro isFeed
    obtain ⟨atEnd, ending⟩ := feed isFeed
    have noReturn := piece.line_proper.no_return ending
    rwa [piece.text_eq, atEnd, List.append_nil] at noReturn
  -- The replacement must not lend the line behind it an ending, or take its own from it.
  have noFeed' : '\n' ∉ piece.head ++ replacement := by
    rw [List.mem_append, not_or] at noFeed ⊢
    exact ⟨noFeed.1, rewrites.no_feed noFeed.2⟩
  have noReturn' : behind.head? = some '\n' → (piece.head ++ replacement).getLast? ≠ some '\r' := by
    intro isFeed isReturn
    rw [List.getLast?_append_of_ne_nil _ rewrites.replacement_ne_nil] at isReturn
    have coveredReturn := rewrites.getLast?_replacement isReturn
    refine noReturn isFeed ?_
    rw [List.getLast?_append, coveredReturn, Option.some_or]
  have text := linesOf_joined _ behind rewrites.head_covered_ne_nil noFeed noReturn
  have result := linesOf_joined (piece.head ++ replacement) behind
    (by simp [rewrites.replacement_ne_nil]) noFeed' noReturn'
  simp only [Piece.front, List.append_assoc] at text result ⊢
  rw [linesOf_flatMap_append _ _ piece.before_proper piece.before_closed,
    linesOf_flatMap_append _ _ piece.before_proper piece.before_closed, text, result]
  have touches := startsOn_piece piece replacement
  cases linesOf behind with
  | nil => exact .of_one_line touches
  | cons line lines => exact .of_one_line touches

theorem Rewritten.sameLines {edits : List Edit} {text result : Text}
    (rewritten : Rewritten source edits text result) :
    SameLinesBut (fun lineIndex => ∃ edit ∈ edits, edit.StartsOn source lineIndex)
      (linesOf text) (linesOf result) := by
  induction rewritten with
  | nil text => exact .refl _
  | cons first rest ih =>
    refine (first.sameLines.mono ?_).trans (ih.mono ?_)
    · exact fun lineIndex touches => ⟨_, by simp, touches⟩
    · rintro lineIndex ⟨edit, member, touches⟩
      exact ⟨edit, by simp [member], touches⟩

end Edit

theorem round_keeps_lines [Bibliography.Reader] [Pattern.Engine] (names : List Text)
    (fileExists : Text → Bool) (path : Path)
    (markup : FileKind.ofPath path = .markup) (source : Text) :
    ∃ diagnostics edits repaired,
      lint (Registry.builtins.disable names).1 fileExists path source = .ok diagnostics ∧
      Edit.ofDiagnostics source diagnostics = (edits, 0) ∧
      Edit.applyAll source edits = some repaired ∧
      repaired.applied = (Edit.applied source edits).length ∧
      Edit.applyAll source (Edit.applied source edits) = some { repaired with skipped := 0 } ∧
      (splitLines repaired.text).length = (splitLines source).length ∧
      (linesOf repaired.text).map Line.ending = (linesOf source).map Line.ending ∧
      ∀ lineIndex, (∀ edit ∈ Edit.applied source edits, ¬ edit.StartsOn source lineIndex) →
        (linesOf repaired.text)[lineIndex]? = (linesOf source)[lineIndex]? := by
  obtain ⟨diagnostics, linted, repairable⟩ := lint_markup names fileExists markup source
  obtain ⟨repaired, result, -, rewritten⟩ := repairable.round
  obtain ⟨alone, count⟩ := Edit.applyAll_applied result
  have same := rewritten.sameLines
  have lengths := congrArg List.length same.endings
  rw [List.length_map, List.length_map] at lengths
  refine ⟨diagnostics, _, repaired, linted, repairable.ofDiagnostics_eq, result, count, alone, ?_,
    same.endings, ?_⟩
  · rw [splitLines, splitLines, List.length_map, List.length_map, lengths]
  · intro lineIndex untouched
    refine same.texts lineIndex ?_
    rintro ⟨edit, member, touches⟩
    exact untouched edit member touches

theorem round_keeps_lines_mixed_endings :
    FileKind.ofPath ("tutorial.md" : Text) = .markup ∧ ∃ diagnostics repaired,
      lint (Registry.builtins.disable []).1 (fun _ => false) "tutorial.md"
        "see [here]\r\nplain\ncall \x7b% icon %".toList = .ok diagnostics ∧
      repair "see [here]\r\nplain\ncall \x7b% icon %".toList diagnostics = some (repaired, 0) ∧
      (linesOf repaired.text).map Line.ending =
        [.carriageReturnLineFeed, .lineFeed, .absent] := by
  have markup : FileKind.ofPath ("tutorial.md" : Text) = .markup := by decide
  obtain ⟨diagnostics, edits, repaired, linted, ofDiagnostics, result, -, -, -, endings, -⟩ :=
    round_keeps_lines [] (fun _ => false) "tutorial.md" markup
      "see [here]\r\nplain\ncall \x7b% icon %".toList
  exact ⟨markup, diagnostics, repaired, linted, repair_eq ofDiagnostics result, endings.trans (by decide)⟩

end CourseLint
