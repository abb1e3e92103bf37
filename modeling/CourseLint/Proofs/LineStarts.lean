import CourseLint.Proofs.Lines

set_option autoImplicit false

namespace CourseLint

open Text

namespace Line

structure StandsAt (text : Text) (line : Line) (start : Nat) : Prop where
  text_covered : slice? text start (start + width line.text) = some line.text
  ending_covered : slice? text (start + width line.text) (start + width line.source) =
    some line.ending.text

theorem standsAt_width_above (above below : Text) (line : Line) :
    line.StandsAt (above ++ (line.source ++ below)) (width above) where
  text_covered := by
    have covered := slice?_append above line.text (line.ending.text ++ below)
    rwa [width_append, List.append_assoc, ← List.append_assoc line.text] at covered
  ending_covered := by
    have covered := slice?_append (above ++ line.text) line.ending.text below
    simpa [source, Nat.add_assoc] using covered

end Line

namespace Text

def namedLines (source : Text) : List Line :=
  match (linesOf source).getLast? with
  | some ⟨_, .absent⟩ => linesOf source
  | _ => linesOf source ++ [⟨[], .absent⟩]

def lineStart (source : Text) (lineIndex : Nat) : Nat :=
  width (((namedLines source).take lineIndex).flatMap Line.source)

variable (source : Text)

theorem namedLines_eq :
    namedLines source =
      linesOf source ++
        if source = [] ∨ source.getLast? = some '\n' then [⟨[], .absent⟩] else [] := by
  unfold namedLines
  split
  · next last isLast =>
    have someOpen : ¬ (source = [] ∨ source.getLast? = some '\n') := by
      rw [← forall_closed_iff]
      exact fun closed => closed _ (List.mem_of_getLast? isLast) rfl
    rw [if_neg someOpen, List.append_nil]
  · next noneOpen =>
    have noneLast := forall_closed_of_last noneOpen
    rw [if_pos ((forall_closed_iff source).mp noneLast)]

example : namedLines "a\r\nb\n" =
    [⟨"a", .carriageReturnLineFeed⟩, ⟨"b", .lineFeed⟩, ⟨[], .absent⟩] := by decide

theorem exists_namedLines :
    ∃ closed last, namedLines source = closed ++ [⟨last, .absent⟩] ∧
      source = closed.flatMap Line.source ++ last ∧
      (∀ line ∈ closed, line.Proper) ∧ (∀ line ∈ closed, line.Closed) ∧ '\n' ∉ last := by
  have proper := proper_of_mem_linesOf source
  have closed := pairwise_closed_linesOf source
  have whole := flatMap_source_linesOf source
  unfold namedLines
  split
  · next last isLast =>
    obtain ⟨lines, isLines⟩ := List.getLast?_eq_some_iff.mp isLast
    rw [isLines] at proper closed whole ⊢
    refine ⟨lines, last, rfl, ?_, ?_, ?_, ?_⟩
    · simpa [Line.source, Ending.text] using whole.symm
    · exact fun line member => proper line (by simp [member])
    · intro line member
      rw [List.pairwise_append] at closed
      exact closed.2.2 line member _ (List.mem_singleton_self _)
    · exact (proper ⟨last, .absent⟩ (by simp)).no_feed
  · next noneOpen =>
    exact ⟨linesOf source, [], rfl, by simp [whole], proper, forall_closed_of_last noneOpen, by simp⟩

theorem flatMap_source_namedLines : (namedLines source).flatMap Line.source = source := by
  obtain ⟨closed, last, named, whole, -⟩ := exists_namedLines source
  conv => rhs; rw [whole]
  simp [named, Line.source, Ending.text]

theorem length_lineStarts_eq : (lineStarts source).length = (namedLines source).length := by
  obtain ⟨closed, last, named, whole, proper, isClosed, noFeed⟩ := exists_namedLines source
  have length := length_startsAfterFeeds 0 closed last proper isClosed noFeed
  rw [← whole] at length
  simp [lineStarts, named, length]

theorem getElem?_lineStarts_eq {source : Text} {lineIndex : Nat}
    (within : lineIndex < (namedLines source).length) :
    (lineStarts source)[lineIndex]? = some (lineStart source lineIndex) := by
  obtain ⟨closed, last, named, whole, proper, isClosed, -⟩ := exists_namedLines source
  have inClosed : lineIndex ≤ closed.length := by simpa [named, Nat.lt_succ_iff] using within
  have above : (namedLines source).take lineIndex = closed.take lineIndex := by
    rw [named, List.take_append_of_le_length inClosed]
  have parts : source = (closed.take lineIndex).flatMap Line.source ++
      ((closed.drop lineIndex).flatMap Line.source ++ last) := by
    rw [← List.append_assoc, ← List.flatMap_append, List.take_append_drop]
    exact whole
  have start := getElem?_startsAfterFeeds 0 (closed.take lineIndex)
    ((closed.drop lineIndex).flatMap Line.source ++ last)
    (fun line member => proper line (List.mem_of_mem_take member))
    (fun line member => isClosed line (List.mem_of_mem_take member))
  rw [← parts, List.length_take_of_le inClosed, Nat.zero_add] at start
  rw [lineStart, above]
  exact start

variable {source} {lineIndex : Nat} {line : Line}

theorem lineStart_succ (named : (namedLines source)[lineIndex]? = some line) :
    lineStart source (lineIndex + 1) = lineStart source lineIndex + width line.source := by
  rw [lineStart, List.take_add_one, named, List.flatMap_append, width_append]
  simp [lineStart]

theorem isOpen_iff_last (named : (namedLines source)[lineIndex]? = some line) :
    line.ending = .absent ↔ lineIndex + 1 = (namedLines source).length := by
  obtain ⟨closed, last, isNamed, -, -, isClosed, -⟩ := exists_namedLines source
  have within := (List.getElem?_eq_some_iff.mp named).1
  rw [isNamed] at named within ⊢
  rw [List.length_append, List.length_singleton] at within ⊢
  by_cases inClosed : lineIndex < closed.length
  · rw [List.getElem?_append_left inClosed] at named
    have notOpen : line.ending ≠ .absent := isClosed line (List.mem_of_getElem? named)
    simp only [notOpen, false_iff]
    omega
  · obtain rfl : lineIndex = closed.length := by omega
    rw [List.getElem?_concat_length] at named
    simp [← Option.some.inj named]

theorem lineStart_length (source : Text) :
    lineStart source (namedLines source).length = width source := by
  rw [lineStart, List.take_length, flatMap_source_namedLines]

theorem linesOf_prefix_namedLines (source : Text) : linesOf source <+: namedLines source := by
  unfold namedLines
  split
  · exact List.prefix_rfl
  · exact List.prefix_append _ _

theorem take_namedLines (within : lineIndex < (namedLines source).length) :
    (namedLines source).take lineIndex = (linesOf source).take lineIndex := by
  unfold namedLines at within ⊢
  split
  · rfl
  · next noneOpen =>
    have bound : lineIndex ≤ (linesOf source).length := by
      simp only [List.length_append, List.length_singleton] at within
      omega
    exact List.take_append_of_le_length bound

theorem lineStart_eq_width_above (within : lineIndex < (namedLines source).length) :
    lineStart source lineIndex = width (((linesOf source).take lineIndex).flatMap Line.source) := by
  rw [lineStart, take_namedLines within]

theorem source_eq_around (named : (namedLines source)[lineIndex]? = some line) :
    source = ((namedLines source).take lineIndex).flatMap Line.source ++
      (line.source ++ ((namedLines source).drop (lineIndex + 1)).flatMap Line.source) := by
  obtain ⟨within, atIndex⟩ := List.getElem?_eq_some_iff.mp named
  have parts := List.take_append_drop lineIndex (namedLines source)
  rw [List.drop_eq_getElem_cons within, atIndex] at parts
  conv => lhs; rw [← flatMap_source_namedLines source, ← parts]
  rw [List.flatMap_append, List.flatMap_cons]

theorem length_lineStarts_eq_lines (source : Text) :
    (lineStarts source).length =
      (splitLines source).length + if source = [] ∨ source.getLast? = some '\n' then 1 else 0 := by
  rw [length_lineStarts_eq, namedLines_eq, List.length_append, splitLines, List.length_map]
  split <;> rfl

theorem getElem?_namedLines (isLine : (linesOf source)[lineIndex]? = some line) :
    (namedLines source)[lineIndex]? = some line := by
  obtain ⟨rest, whole⟩ := linesOf_prefix_namedLines source
  rw [← whole, List.getElem?_append_left (List.getElem?_eq_some_iff.mp isLine).1, isLine]

theorem standsAt_lineStart (named : (namedLines source)[lineIndex]? = some line) :
    line.StandsAt source (lineStart source lineIndex) := by
  have stands := line.standsAt_width_above
    (((namedLines source).take lineIndex).flatMap Line.source)
    (((namedLines source).drop (lineIndex + 1)).flatMap Line.source)
  rwa [← source_eq_around named] at stands

theorem getElem?_lineStarts_behind (named : (namedLines source)[lineIndex]? = some line) :
    (lineStarts source)[lineIndex + 1]? =
      if line.ending = .absent then none else some (lineStart source lineIndex + width line.source) := by
  have within := (List.getElem?_eq_some_iff.mp named).1
  have last := isOpen_iff_last named
  split
  · next isOpen =>
    rw [List.getElem?_eq_none_iff, length_lineStarts_eq]
    exact Nat.le_of_eq (last.mp isOpen).symm
  · next closed =>
    have notLast : lineIndex + 1 ≠ (namedLines source).length := mt last.mpr closed
    rw [getElem?_lineStarts_eq (by omega), lineStart_succ named]

theorem isLast_of_open (isLine : (linesOf source)[lineIndex]? = some line)
    (isOpen : line.ending = .absent) : lineIndex + 1 = (linesOf source).length := by
  have within := (List.getElem?_eq_some_iff.mp isLine).1
  have isLast := (isOpen_iff_last (getElem?_namedLines isLine)).mp isOpen
  have bound := (linesOf_prefix_namedLines source).length_le
  omega

end Text

theorem lines_stand_at_lineStarts (text : Text) :
    (linesOf text).map Line.text = splitLines text ∧
    (linesOf text).flatMap Line.source = text ∧
    (∀ lineIndex line, (linesOf text)[lineIndex]? = some line →
      line.Proper ∧
      (line.ending = .absent → lineIndex + 1 = (splitLines text).length) ∧
      ∃ start, (lineStarts text)[lineIndex]? = some start ∧
        start = width (((linesOf text).take lineIndex).flatMap Line.source) ∧
        line.StandsAt text start ∧
        (lineStarts text)[lineIndex + 1]? =
          if line.ending = .absent then none else some (start + width line.source)) ∧
    (lineStarts text).length =
      (splitLines text).length + if text = [] ∨ text.getLast? = some '\n' then 1 else 0 := by
  refine ⟨rfl, flatMap_source_linesOf text, ?_, length_lineStarts_eq_lines text⟩
  intro lineIndex line isLine
  have named := getElem?_namedLines isLine
  have within := (List.getElem?_eq_some_iff.mp named).1
  refine ⟨proper_of_mem_linesOf text line (List.mem_of_getElem? isLine), ?_,
    lineStart text lineIndex, getElem?_lineStarts_eq within, lineStart_eq_width_above within,
    standsAt_lineStart named, getElem?_lineStarts_behind named⟩
  intro isOpen
  rw [splitLines, List.length_map]
  exact isLast_of_open isLine isOpen

def mixedEndings : Text := "é\r\r\n\n\rb\r"

theorem lines_stand_at_lineStarts_mixed_endings :
    (linesOf mixedEndings)[0]? = some ⟨"é\r", .carriageReturnLineFeed⟩ ∧
      (linesOf mixedEndings)[2]? = some ⟨"\rb\r", .absent⟩ ∧
      lineStarts mixedEndings = [0, 5, 6] ∧
      Line.StandsAt mixedEndings ⟨"é\r", .carriageReturnLineFeed⟩ 0 ∧
      Line.StandsAt mixedEndings ⟨"\rb\r", .absent⟩ 6 := by
  have starts : lineStarts mixedEndings = [0, 5, 6] := by decide
  have first : (linesOf mixedEndings)[0]? = some ⟨"é\r", .carriageReturnLineFeed⟩ := by decide
  have last : (linesOf mixedEndings)[2]? = some ⟨"\rb\r", .absent⟩ := by decide
  obtain ⟨-, -, stand, -⟩ := lines_stand_at_lineStarts mixedEndings
  obtain ⟨-, -, firstStart, beginsFirst, -, standsFirst, -⟩ := stand 0 _ first
  obtain ⟨-, -, lastStart, beginsLast, -, standsLast, -⟩ := stand 2 _ last
  rw [starts] at beginsFirst beginsLast
  cases beginsFirst
  cases beginsLast
  exact ⟨first, last, starts, standsFirst, standsLast⟩

end CourseLint
