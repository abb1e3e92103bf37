import CourseLint.Proofs.Placement

set_option autoImplicit false

namespace CourseLint

open Text

theorem Line.exists_joined {head : Text} (nonempty : head ≠ []) (noFeed : '\n' ∉ head) {next : Line}
    (proper : next.Proper) :
    ∃ joined : Line, joined.source = head ++ next.source ∧ joined.Proper ∧
      (next.Closed → joined.Closed) := by
  by_cases splits : next = ⟨[], .lineFeed⟩ ∧ head.getLast? = some '\r'
  · -- The return at the end of the head and the feed behind it are one ending.
    obtain ⟨rfl, isReturn⟩ := splits
    obtain ⟨front, rfl⟩ := List.getLast?_eq_some_iff.mp isReturn
    have noFeedFront : '\n' ∉ front := fun isFeed => noFeed (by simp [isFeed])
    refine ⟨⟨front, .carriageReturnLineFeed⟩, by simp [source, Ending.text], ?_, by simp [Closed]⟩
    exact ⟨noFeedFront, by simp, by simp⟩
  · refine ⟨⟨head ++ next.text, next.ending⟩, by simp [source], ?_, id⟩
    refine ⟨by simp [noFeed, proper.no_feed], ?_, by simp [nonempty]⟩
    intro isFeed
    by_cases empty : next.text = []
    · have isNext : next = ⟨[], .lineFeed⟩ := by rw [← empty, ← isFeed]
      simpa [empty, isNext] using splits
    · dsimp only
      rw [List.getLast?_append_of_ne_nil _ empty]
      exact proper.no_return isFeed

namespace Piece

variable {source : Text} (piece : Piece source)

theorem cut_eq (atEnd : piece.tail = []) :
    piece.front ++ [] ++ piece.behind =
      ((linesOf source).set piece.before.length ⟨piece.head, .absent⟩).flatMap Line.source := by
  rw [piece.set_line]
  simp [front, behind, atEnd, Line.source, Ending.text]

theorem no_feed_head : '\n' ∉ piece.head := by
  have noFeed := piece.line_proper.no_feed
  rw [piece.text_eq] at noFeed
  exact fun isFeed => noFeed (by simp [isFeed])

variable (nonempty : piece.head ≠ [])
include nonempty

theorem linesOf_cut_last (isLast : piece.after = []) :
    linesOf (((linesOf source).set piece.before.length ⟨piece.head, .absent⟩).flatMap Line.source) =
      (linesOf source).set piece.before.length ⟨piece.head, .absent⟩ := by
  have opened := linesOf_joined piece.head [] nonempty piece.no_feed_head (by simp)
  rw [List.append_nil] at opened
  rw [piece.set_line, isLast, List.flatMap_append,
    linesOf_flatMap_append _ _ piece.before_proper piece.before_closed]
  simp [Line.source, Ending.text, opened, linesOf]

theorem linesOf_cut_joined {next : Line} {others : List Line}
    (follows : piece.after = next :: others) :
    ∃ joined : Line, joined.source = piece.head ++ next.source ∧
      linesOf (((linesOf source).set piece.before.length ⟨piece.head, .absent⟩).flatMap
        Line.source) = piece.before ++ joined :: others := by
  have afterProper := piece.after_proper
  have afterClosed := piece.pairwise_closed_from_line.of_cons
  rw [follows] at afterProper afterClosed
  rw [List.pairwise_cons] at afterClosed
  obtain ⟨joined, isJoined, proper, closed⟩ :=
    Line.exists_joined nonempty piece.no_feed_head (afterProper next (by simp))
  refine ⟨joined, isJoined, ?_⟩
  have joinedSource : (joined :: others).flatMap Line.source =
      piece.head ++ (next :: others).flatMap Line.source := by
    rw [List.flatMap_cons, isJoined, List.flatMap_cons, List.append_assoc]
  have rewritten : ((linesOf source).set piece.before.length ⟨piece.head, .absent⟩).flatMap
      Line.source = piece.before.flatMap Line.source ++ (joined :: others).flatMap Line.source := by
    rw [joinedSource, piece.set_line, follows]
    simp [Line.source, Ending.text]
  have joinedProper : ∀ line ∈ joined :: others, line.Proper := by
    intro line member
    cases List.mem_cons.mp member with
    | inl first => rwa [first]
    | inr later => exact afterProper line (by simp [later])
  have joinedClosed : (joined :: others).Pairwise fun line _ => line.Closed :=
    .cons (fun other member => closed (afterClosed.1 other member)) afterClosed.2
  rw [rewritten, linesOf_flatMap_append _ _ piece.before_proper piece.before_closed,
    linesOf_flatMap_source joinedProper joinedClosed]

end Piece

theorem deleted_tail_takes_ending (source path message : Text) (severity : Severity)
    (lineIndex : Nat) (line : Line) (head covered : Text)
    (present : (linesOf source)[lineIndex]? = some line) (parts : line.text = head ++ covered)
    (nonempty : head ≠ []) :
    ∃ (edit : Edit) (repaired : Text),
      Edit.ofDiagnostics source [(Diagnostic.ofSpan path
        ⟨lineIndex, line.text, width head, width line.text⟩ severity message).withReplacement []] =
          ([edit], 0) ∧
      Edit.applyAll source [edit] = some ⟨repaired, 1, 0⟩ ∧
      repaired = ((linesOf source).set lineIndex ⟨head, .absent⟩).flatMap Line.source ∧
      (lineIndex + 1 = (linesOf source).length →
        linesOf repaired = (linesOf source).set lineIndex ⟨head, .absent⟩) ∧
      ∀ next, (linesOf source)[lineIndex + 1]? = some next →
        ∃ joined : Line, joined.source = head ++ next.source ∧
          linesOf repaired =
            (linesOf source).take lineIndex ++ joined :: (linesOf source).drop (lineIndex + 2) := by
  obtain ⟨piece, rfl, rfl, rfl, rfl, atEnd⟩ :=
    exists_piece head covered [] present (by rw [parts, List.append_nil])
  have range : (Diagnostic.ofSpan path ⟨piece.before.length, piece.line.text, width piece.head,
      width piece.line.text⟩ severity message).range = piece.span.range := by
    rw [Piece.span, ← parts]
    rfl
  have placed := piece.ofSuggestion?_deletion _ range
  refine ⟨_, _, Edit.ofDiagnostics_singleton placed, piece.applyAll_singleton [],
    piece.cut_eq atEnd, ?_, ?_⟩
  · intro isLast
    have none : piece.after = [] := by
      rw [piece.lines_eq, List.length_append, List.length_cons] at isLast
      exact List.eq_nil_of_length_eq_zero (by omega)
    rw [piece.cut_eq atEnd]
    exact piece.linesOf_cut_last nonempty none
  · intro next isNext
    obtain ⟨others, follows⟩ : ∃ others, piece.after = next :: others := by
      rw [piece.lines_eq, List.getElem?_append_right (by omega)] at isNext
      simp only [Nat.add_sub_cancel_left, List.getElem?_cons_succ] at isNext
      exact List.head?_eq_some_iff.mp (by rwa [List.head?_eq_getElem?])
    obtain ⟨joined, isJoined, lines⟩ := piece.linesOf_cut_joined nonempty follows
    refine ⟨joined, isJoined, ?_⟩
    rw [piece.cut_eq atEnd, lines, piece.lines_eq, follows]
    simp

def returningSource : Text := "a\rb\r\n\nlast"

theorem deleted_tail_takes_ending_at_return :
    (linesOf returningSource)[0]? = some ⟨"a\rb", .carriageReturnLineFeed⟩ ∧
      ∃ (edit : Edit) (repaired : Text) (joined : Line),
        Edit.ofDiagnostics returningSource
          [(Diagnostic.ofSpan "tutorial.md" ⟨0, "a\rb", 2, 3⟩ .warning "Tail").withReplacement []] =
            ([edit], 0) ∧
        Edit.applyAll returningSource [edit] = some ⟨repaired, 1, 0⟩ ∧
        repaired = "a\r\nlast".toList ∧ joined.source = "a\r\n".toList ∧
        linesOf repaired = [joined, ⟨"last", .absent⟩] := by
  have present : (linesOf returningSource)[0]? = some ⟨"a\rb", .carriageReturnLineFeed⟩ := by decide
  obtain ⟨edit, repaired, placed, applied, isRepaired, -, joins⟩ :=
    deleted_tail_takes_ending returningSource "tutorial.md" "Tail" .warning 0 _ ['a', '\r'] ['b']
      present rfl (by decide)
  obtain ⟨joined, isJoined, lines⟩ := joins ⟨[], .lineFeed⟩ (by decide)
  have text : repaired = "a\r\nlast".toList := isRepaired.trans (by decide)
  exact ⟨present, edit, repaired, joined, placed, applied, text, isJoined, lines.trans rfl⟩

def twoLines : Text := "ab\ncd\n"

theorem deleted_tail_joins_lines :
    (linesOf twoLines)[0]? = some ⟨"ab", .lineFeed⟩ ∧
      Edit.ofDiagnostics twoLines
        [(Diagnostic.ofSpan "tutorial.md" ⟨0, "ab", 1, 2⟩ .warning "Tail").withReplacement []] =
          ([⟨1, 3, []⟩], 0) ∧
      Edit.applyAll twoLines [⟨1, 3, []⟩] = some ⟨"acd\n".toList, 1, 0⟩ ∧
      ((linesOf twoLines).set 0 ⟨['a'], .lineFeed⟩).flatMap Line.source = "a\ncd\n".toList ∧
      (linesOf twoLines).length = 2 ∧ (linesOf "acd\n".toList).length = 1 := by
  decide

end CourseLint
