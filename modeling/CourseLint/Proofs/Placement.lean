import CourseLint.Proofs.Application
import CourseLint.Proofs.LineStarts

set_option autoImplicit false

namespace CourseLint

open Text

namespace Edit

theorem offsetOf?_of_start {source : Text} {lineIndex start column : Nat} {cut : Text × Text}
    (begins : (lineStarts source)[lineIndex]? = some start)
    (isCut : splitAtByte? source (start + column) = some cut) :
    offsetOf? source ⟨lineIndex + 1, column + 1⟩ = some (start + column) := by
  simp [offsetOf?, begins, isCut]

theorem offsetOf?_behind {source : Text} {lineIndex : Nat}
    (last : (lineStarts source).length = lineIndex) :
    offsetOf? source ⟨lineIndex + 1, 1⟩ = some (width source) := by
  have cut := splitAtByte?_append source []
  rw [List.append_nil] at cut
  simp [offsetOf?, ← last, cut]

theorem adaptEnding_carriageReturn (before text : Text) :
    adaptEnding (before ++ ['\r', '\n']) (text ++ ['\n']) = text ++ ['\r', '\n'] := by
  simp [adaptEnding]

theorem adaptEnding_lineFeed (before text : Text) (noReturn : before.getLast? ≠ some '\r') :
    adaptEnding (before ++ ['\n']) (text ++ ['\n']) = text ++ ['\n'] := by
  simp only [adaptEnding, List.getLast?_append, List.getLast?_singleton, Option.some_or, if_true,
    List.reverse_append, List.reverse_singleton, List.singleton_append]
  split
  · next rest reversed =>
    have isLast : before.getLast? = some '\r' := by
      rw [List.getLast?_eq_head?_reverse, (List.cons.inj reversed).2, List.head?_cons]
    exact absurd isLast noReturn
  · rfl
  · next noFeed => exact absurd rfl (noFeed _)

theorem adaptEnding_open (before text : Text) (noFeed : before.getLast? ≠ some '\n') :
    adaptEnding before (text ++ ['\n']) = text := by
  have isLast (rest : Text) (reversed : before.reverse = '\n' :: rest) :
      before.getLast? = some '\n' := by
    rw [List.getLast?_eq_head?_reverse, reversed, List.head?_cons]
  simp only [adaptEnding, List.getLast?_append, List.getLast?_singleton, Option.some_or, if_true]
  split
  · next rest reversed => exact absurd (isLast _ reversed) noFeed
  · next rest _ reversed => exact absurd (isLast _ reversed) noFeed
  · exact List.dropLast_concat

theorem adaptEnding_behind_line {above : List Line} {line : Line}
    (closed : ∀ other ∈ above, other.Closed) (proper : line.Proper) (text : Text) :
    adaptEnding (above.flatMap Line.source ++ line.source) (text ++ ['\n']) =
      text ++ line.ending.text := by
  rw [Line.source, ← List.append_assoc]
  cases ending : line.ending with
  | absent =>
    rw [Ending.text, List.append_nil, List.append_nil]
    apply adaptEnding_open
    rw [List.getLast?_append_of_ne_nil _ (proper.not_empty ending)]
    exact fun isFeed => proper.no_feed (List.mem_of_getLast? isFeed)
  | lineFeed =>
    apply adaptEnding_lineFeed
    by_cases empty : line.text = []
    · rw [empty, List.append_nil]
      exact getLast?_flatMap_source_ne _ closed (by decide)
    · rw [List.getLast?_append_of_ne_nil _ empty]
      exact proper.no_return ending
  | carriageReturnLineFeed => exact adaptEnding_carriageReturn _ _

theorem ofDiagnostics_singleton {source : Text} {diagnostic : Diagnostic} {edit : Edit}
    (placed : diagnostic.suggestion.bind (ofSuggestion? source) = some edit) :
    ofDiagnostics source [diagnostic] = ([edit], 0) := by
  obtain ⟨suggestion, suggested, isEdit⟩ := Option.bind_eq_some_iff.mp placed
  simp [ofDiagnostics, suggested, isEdit]

theorem adaptEnding_of_no_feed (before text : Text) (noFeed : text.getLast? ≠ some '\n') :
    adaptEnding before text = text :=
  if_neg noFeed

end Edit

structure Piece (source : Text) where
  before : List Line
  line : Line
  after : List Line
  head : Text
  covered : Text
  tail : Text
  lines_eq : linesOf source = before ++ line :: after
  text_eq : line.text = head ++ covered ++ tail

namespace Piece

variable {source : Text} (piece : Piece source)

def span : Span :=
  ⟨piece.before.length, piece.line.text, width piece.head, width (piece.head ++ piece.covered)⟩

def swallowed : Text := if piece.tail = [] then piece.line.ending.text else []

def front : Text := piece.before.flatMap Line.source ++ piece.head

def replaced : Text := piece.covered ++ piece.swallowed

def behind : Text :=
  (if piece.tail = [] then [] else piece.tail ++ piece.line.ending.text) ++
    piece.after.flatMap Line.source

def edit (replacement : Text) : Edit :=
  ⟨width piece.front, width (piece.front ++ piece.replaced), replacement ++ piece.swallowed⟩

theorem before_proper (line : Line) (member : line ∈ piece.before) : line.Proper :=
  proper_of_mem_linesOf source line (by simp [piece.lines_eq, member])

theorem line_proper : piece.line.Proper :=
  proper_of_mem_linesOf source piece.line (by simp [piece.lines_eq])

theorem after_proper (line : Line) (member : line ∈ piece.after) : line.Proper :=
  proper_of_mem_linesOf source line (by simp [piece.lines_eq, member])

theorem before_closed (line : Line) (member : line ∈ piece.before) : line.Closed := by
  have closed := pairwise_closed_linesOf source
  rw [piece.lines_eq, List.pairwise_append] at closed
  exact closed.2.2 line member piece.line (by simp)

theorem pairwise_closed_from_line :
    (piece.line :: piece.after).Pairwise fun line _ => line.Closed := by
  have closed := pairwise_closed_linesOf source
  rw [piece.lines_eq, List.pairwise_append] at closed
  exact closed.2.1

theorem after_eq_nil (isOpen : piece.line.ending = .absent) : piece.after = [] := by
  cases after : piece.after with
  | nil => rfl
  | cons next others =>
    have follows : next ∈ piece.after := by simp [after]
    exact absurd isOpen (List.rel_of_pairwise_cons piece.pairwise_closed_from_line follows)

theorem set_line (line : Line) :
    (linesOf source).set piece.before.length line = piece.before ++ line :: piece.after := by
  rw [piece.lines_eq, List.set_append_right _ _ (Nat.le_refl _), Nat.sub_self, List.set_cons_zero]

theorem source_eq_lines :
    source = piece.before.flatMap Line.source ++
      (piece.line.source ++ piece.after.flatMap Line.source) := by
  conv => lhs; rw [← flatMap_source_linesOf source, piece.lines_eq]
  simp

theorem source_eq : source = piece.front ++ piece.replaced ++ piece.behind := by
  conv => lhs; rw [piece.source_eq_lines, Line.source, piece.text_eq]
  by_cases atEnd : piece.tail = [] <;> simp [front, replaced, swallowed, behind, atEnd]

theorem named : (namedLines source)[piece.before.length]? = some piece.line :=
  getElem?_namedLines (by simp [piece.lines_eq])

theorem lineStart_eq :
    lineStart source piece.before.length = width (piece.before.flatMap Line.source) := by
  rw [lineStart_eq_width_above (List.getElem?_eq_some_iff.mp piece.named).1, piece.lines_eq,
    List.take_left]

theorem getElem?_lineStarts :
    (lineStarts source)[piece.before.length]? = some (width (piece.before.flatMap Line.source)) := by
  rw [getElem?_lineStarts_eq (List.getElem?_eq_some_iff.mp piece.named).1, piece.lineStart_eq]

theorem getElem?_lineStarts_next (closed : piece.line.Closed) :
    (lineStarts source)[piece.before.length + 1]? =
      some (width (piece.before.flatMap Line.source ++ piece.line.source)) := by
  rw [getElem?_lineStarts_behind piece.named, if_neg closed, piece.lineStart_eq, width_append]

theorem length_lineStarts (isOpen : piece.line.ending = .absent) :
    (lineStarts source).length = piece.before.length + 1 := by
  rw [length_lineStarts_eq, ← (isOpen_iff_last piece.named).mp isOpen]

theorem stop_eq_width_iff : piece.span.stop = width piece.line.text ↔ piece.tail = [] := by
  simp only [span, piece.text_eq, width_append, ← width_eq_zero_iff piece.tail]
  omega

theorem span_range_start :
    piece.span.range.start = ⟨piece.before.length + 1, width piece.head + 1⟩ := rfl

theorem span_range_stop_of_reaches (atEnd : piece.tail = []) :
    piece.span.range.stop = ⟨piece.before.length + 2, 1⟩ :=
  if_pos (piece.stop_eq_width_iff.mpr atEnd)

theorem span_range_stop_of_inside (inside : piece.tail ≠ []) :
    piece.span.range.stop =
      ⟨piece.before.length + 1, width (piece.head ++ piece.covered) + 1⟩ :=
  if_neg (mt piece.stop_eq_width_iff.mp inside)

theorem splitAtByte?_front :
    splitAtByte? source (width piece.front) =
      some (piece.front, piece.replaced ++ piece.behind) :=
  (splitAtByte?_eq_some_iff _ _ _ _).mpr ⟨by rw [← List.append_assoc, ← piece.source_eq], rfl⟩

theorem splitAtByte?_replaced :
    splitAtByte? source (width (piece.front ++ piece.replaced)) =
      some (piece.front ++ piece.replaced, piece.behind) :=
  (splitAtByte?_eq_some_iff _ _ _ _).mpr ⟨piece.source_eq, rfl⟩

theorem offsetOf?_start :
    Edit.offsetOf? source piece.span.range.start = some (width piece.front) := by
  have cut := piece.splitAtByte?_front
  rw [front, width_append] at cut ⊢
  exact Edit.offsetOf?_of_start piece.getElem?_lineStarts cut

theorem offsetOf?_stop :
    Edit.offsetOf? source piece.span.range.stop = some (width (piece.front ++ piece.replaced)) := by
  have cut := piece.splitAtByte?_replaced
  by_cases atEnd : piece.tail = []
  · -- The range ends where the next line starts, or one line past an open last line.
    have toEnd : piece.front ++ piece.replaced =
        piece.before.flatMap Line.source ++ piece.line.source := by
      simp [front, replaced, swallowed, atEnd, Line.source, piece.text_eq]
    rw [piece.span_range_stop_of_reaches atEnd, toEnd]
    rw [toEnd] at cut
    by_cases isOpen : piece.line.ending = .absent
    · have whole := piece.source_eq_lines
      rw [piece.after_eq_nil isOpen, List.flatMap_nil, List.append_nil] at whole
      rw [← whole]
      exact Edit.offsetOf?_behind (piece.length_lineStarts isOpen)
    · exact Edit.offsetOf?_of_start (piece.getElem?_lineStarts_next isOpen) cut
  · have inside : piece.front ++ piece.replaced =
        piece.before.flatMap Line.source ++ (piece.head ++ piece.covered) := by
      simp [front, replaced, swallowed, atEnd]
    have widths := width_append (piece.before.flatMap Line.source) (piece.head ++ piece.covered)
    rw [piece.span_range_stop_of_inside atEnd, inside, widths]
    rw [inside, widths] at cut
    exact Edit.offsetOf?_of_start piece.getElem?_lineStarts cut

theorem ofSuggestion?_piece (text : Text) :
    Edit.ofSuggestion? source ⟨text, piece.span.range⟩ =
      some ⟨width piece.front, width (piece.front ++ piece.replaced),
        Edit.adaptEnding (piece.front ++ piece.replaced) text⟩ := by
  have inOrder : width piece.front ≤ width (piece.front ++ piece.replaced) := by simp
  simp only [Edit.ofSuggestion?, piece.offsetOf?_start, piece.offsetOf?_stop,
    piece.splitAtByte?_replaced, Option.bind_eq_bind, Option.bind_some, if_pos inOrder]
  rfl

theorem adaptEnding_replaced (atEnd : piece.tail = []) (text : Text) :
    Edit.adaptEnding (piece.front ++ piece.replaced) (text ++ ['\n']) =
      text ++ piece.swallowed := by
  have toEnd : piece.front ++ piece.replaced =
      piece.before.flatMap Line.source ++ piece.line.source := by
    simp [front, replaced, swallowed, atEnd, Line.source, piece.text_eq]
  rw [toEnd, swallowed, if_pos atEnd]
  exact Edit.adaptEnding_behind_line piece.before_closed piece.line_proper text

theorem ofSuggestion?_withReplacement (diagnostic : Diagnostic) (replacement : Text)
    (range : diagnostic.range = piece.span.range) (nonempty : replacement ≠ [])
    (noFeed : replacement.getLast? ≠ some '\n') :
    (diagnostic.withReplacement replacement).suggestion.bind (Edit.ofSuggestion? source) =
      some (piece.edit replacement) := by
  have isEmpty : replacement.isEmpty = false := by simpa using nonempty
  have spans : piece.span.range.spansLineBreak = true ↔ piece.tail = [] := by
    by_cases atEnd : piece.tail = []
    · simp [Range.spansLineBreak, piece.span_range_start, piece.span_range_stop_of_reaches atEnd,
        atEnd]
    · simp [Range.spansLineBreak, piece.span_range_start, piece.span_range_stop_of_inside atEnd,
        atEnd]
  simp only [Diagnostic.withReplacement, range, isEmpty, Bool.not_false, Bool.and_true,
    Option.bind_some]
  by_cases atEnd : piece.tail = []
  · rw [if_pos (spans.mpr atEnd), piece.ofSuggestion?_piece, piece.adaptEnding_replaced atEnd, edit]
  · rw [if_neg (mt spans.mp atEnd), piece.ofSuggestion?_piece,
      Edit.adaptEnding_of_no_feed _ _ noFeed]
    simp [edit, swallowed, atEnd]

theorem ofSuggestion?_deletion (diagnostic : Diagnostic)
    (range : diagnostic.range = piece.span.range) :
    (diagnostic.withReplacement []).suggestion.bind (Edit.ofSuggestion? source) =
      some ⟨width piece.front, width (piece.front ++ piece.replaced), []⟩ := by
  simp only [Diagnostic.withReplacement, range, List.isEmpty_nil, Bool.not_true, Bool.and_false,
    Option.bind_some]
  exact piece.ofSuggestion?_piece []

theorem applyAll_singleton (text : Text) :
    Edit.applyAll source [⟨width piece.front, width (piece.front ++ piece.replaced), text⟩] =
      some ⟨piece.front ++ text ++ piece.behind, 1, 0⟩ := by
  have step := Edit.Progress.step_apply ⟨source, [], 0, 0⟩
    ⟨width piece.front, width (piece.front ++ piece.replaced), text⟩ piece.source_eq rfl rfl
  simp only [Edit.applyAll, Edit.lastFirst, Edit.insertByStart, List.foldr_cons, List.foldr_nil,
    List.foldlM_cons, List.foldlM_nil, step]
  simp

theorem rewritten_eq (replacement : Text) :
    piece.front ++ (replacement ++ piece.swallowed) ++ piece.behind =
      ((linesOf source).set piece.before.length
        ⟨piece.head ++ replacement ++ piece.tail, piece.line.ending⟩).flatMap Line.source := by
  rw [piece.set_line]
  by_cases atEnd : piece.tail = [] <;>
    simp [front, swallowed, behind, atEnd, Line.source]

theorem deleted_eq (noHead : piece.head = []) (noTail : piece.tail = []) :
    piece.front ++ [] ++ piece.behind =
      ((linesOf source).eraseIdx piece.before.length).flatMap Line.source := by
  rw [piece.lines_eq, List.eraseIdx_append_of_length_le (Nat.le_refl _), Nat.sub_self]
  simp [front, behind, noHead, noTail]

theorem replacement_lands (path message : Text) (severity : Severity) {replacement : Text}
    (nonempty : replacement ≠ []) (noFeed : replacement.getLast? ≠ some '\n') :
    Edit.ofDiagnostics source
        [(Diagnostic.ofSpan path piece.span severity message).withReplacement replacement] =
        ([piece.edit replacement], 0) ∧
      Edit.applyAll source [piece.edit replacement] = some
        ⟨((linesOf source).set piece.before.length
          ⟨piece.head ++ replacement ++ piece.tail, piece.line.ending⟩).flatMap Line.source, 1, 0⟩ := by
  constructor
  · have placed := piece.ofSuggestion?_withReplacement
      (Diagnostic.ofSpan path piece.span severity message) replacement rfl nonempty noFeed
    exact Edit.ofDiagnostics_singleton placed
  · rw [← piece.rewritten_eq]
    exact piece.applyAll_singleton _

theorem deletion_lands (path message : Text) (noHead : piece.head = [])
    (isCovered : piece.covered = piece.line.text) (noTail : piece.tail = []) :
    ∃ edit, Edit.ofDiagnostics source
        [Diagnostic.deleteLine path piece.before.length piece.line.text message] = ([edit], 0) ∧
      Edit.applyAll source [edit] = some
        ⟨((linesOf source).eraseIdx piece.before.length).flatMap Line.source, 1, 0⟩ := by
  refine ⟨⟨width piece.front, width (piece.front ++ piece.replaced), []⟩, ?_, ?_⟩
  · have placed := piece.ofSuggestion?_deletion
      (Diagnostic.warning path (Span.wholeLine piece.before.length piece.line.text) message)
      (by rw [Piece.span, noHead, isCovered]; rfl)
    exact Edit.ofDiagnostics_singleton placed
  · rw [← piece.deleted_eq noHead noTail]
    exact piece.applyAll_singleton []

end Piece

theorem exists_piece {source : Text} {lineIndex : Nat} {line : Line} (head covered tail : Text)
    (present : (linesOf source)[lineIndex]? = some line)
    (parts : line.text = head ++ covered ++ tail) :
    ∃ piece : Piece source, piece.before.length = lineIndex ∧ piece.line = line ∧
      piece.head = head ∧ piece.covered = covered ∧ piece.tail = tail := by
  obtain ⟨within, atIndex⟩ := List.getElem?_eq_some_iff.mp present
  have split : linesOf source =
      (linesOf source).take lineIndex ++ line :: (linesOf source).drop (lineIndex + 1) := by
    rw [← atIndex, List.getElem_cons_drop, List.take_append_drop]
  exact ⟨⟨_, line, _, head, covered, tail, split, parts⟩,
    List.length_take_of_le (Nat.le_of_lt within), rfl, rfl, rfl, rfl⟩

theorem suggestion_replaces_exactly_its_span (source path message : Text) (severity : Severity)
    (lineIndex : Nat) (line : Line) (present : (linesOf source)[lineIndex]? = some line) :
    (∀ (start stop : Nat) (replacement : Text), start ≤ stop →
      (splitAtByte? line.text start).isSome → (splitAtByte? line.text stop).isSome →
      replacement ≠ [] → replacement.getLast? ≠ some '\n' →
      ∃ head covered tail edit, line.text = head ++ covered ++ tail ∧
        width head = start ∧ width (head ++ covered) = stop ∧
        Edit.ofDiagnostics source [(Diagnostic.ofSpan path ⟨lineIndex, line.text, start, stop⟩
          severity message).withReplacement replacement] = ([edit], 0) ∧
        Edit.applyAll source [edit] = some
          ⟨((linesOf source).set lineIndex ⟨head ++ replacement ++ tail, line.ending⟩).flatMap
            Line.source, 1, 0⟩) ∧
    ∃ edit, Edit.ofDiagnostics source
        [Diagnostic.deleteLine path lineIndex line.text message] = ([edit], 0) ∧
      Edit.applyAll source [edit] = some
        ⟨((linesOf source).eraseIdx lineIndex).flatMap Line.source, 1, 0⟩ := by
  constructor
  · intro start stop replacement inOrder atStart atStop nonempty noFeed
    obtain ⟨⟨upToStop, tail⟩, cutStop⟩ := Option.isSome_iff_exists.mp atStop
    obtain ⟨⟨head, fromStart⟩, cutStart⟩ := Option.isSome_iff_exists.mp atStart
    obtain ⟨parts, rfl⟩ := (splitAtByte?_eq_some_iff _ _ _ _).mp cutStop
    obtain ⟨partsStart, rfl⟩ := (splitAtByte?_eq_some_iff _ _ _ _).mp cutStart
    have beforeStart : head <+: line.text := ⟨fromStart, partsStart.symm⟩
    obtain ⟨covered, rfl⟩ := prefix_of_width_le beforeStart ⟨tail, parts.symm⟩ inOrder
    obtain ⟨piece, rfl, rfl, rfl, rfl, rfl⟩ := exists_piece _ _ _ present parts
    obtain ⟨placed, result⟩ := piece.replacement_lands path message severity nonempty noFeed
    exact ⟨piece.head, piece.covered, piece.tail, piece.edit replacement, parts, rfl, rfl, placed,
      result⟩
  · obtain ⟨piece, rfl, rfl, noHead, isCovered, noTail⟩ :=
      exists_piece [] line.text [] present (by simp)
    exact piece.deletion_lands path message noHead isCovered noTail

theorem suggestion_replaces_here_at_line_end :
    (linesOf "é [here]\r\nlast".toList)[0]? = some ⟨"é [here]", .carriageReturnLineFeed⟩ ∧
      ∃ edit, Edit.ofDiagnostics "é [here]\r\nlast".toList
          [(Diagnostic.ofSpan "tutorial.md" ⟨0, "é [here]", 3, 9⟩ .warning "vague").withReplacement
            "[site]"] = ([edit], 0) ∧
        Edit.applyAll "é [here]\r\nlast".toList [edit] = some ⟨"é [site]\r\nlast".toList, 1, 0⟩ := by
  have present : (linesOf "é [here]\r\nlast".toList)[0]? =
      some ⟨"é [here]", .carriageReturnLineFeed⟩ := by decide
  obtain ⟨head, covered, tail, edit, parts, start, stop, placed, result⟩ :=
    (suggestion_replaces_exactly_its_span _ "tutorial.md" "vague" .warning 0 _ present).1 3 9
      "[site]" (by decide) (by decide) (by decide) (by decide) (by decide)
  have cutStop := (splitAtByte?_eq_some_iff _ 9 (head ++ covered) tail).mpr ⟨parts, stop⟩
  rw [List.append_assoc] at parts
  have cutStart := (splitAtByte?_eq_some_iff _ 3 head (covered ++ tail)).mpr ⟨parts, start⟩
  have isHead : splitAtByte? "é [here]".toList 3 = some ("é ".toList, "[here]".toList) := by decide
  have isTail : splitAtByte? "é [here]".toList 9 = some ("é [here]".toList, []) := by decide
  obtain ⟨rfl, -⟩ := Prod.mk.inj (Option.some.inj (cutStart.symm.trans isHead))
  obtain ⟨-, rfl⟩ := Prod.mk.inj (Option.some.inj (cutStop.symm.trans isTail))
  exact ⟨present, edit, placed, result.trans (by decide)⟩

end CourseLint
