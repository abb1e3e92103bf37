import CourseLint.Text.Lines

set_option autoImplicit false

namespace CourseLint

namespace Line

structure Proper (line : Line) : Prop where
  no_feed : '\n' ∉ line.text
  no_return : line.ending = .lineFeed → line.text.getLast? ≠ some '\r'
  not_empty : line.ending = .absent → line.text ≠ []

def Closed (line : Line) : Prop := line.ending ≠ .absent

theorem source_ne_nil {line : Line} (proper : line.Proper) : line.source ≠ [] := by
  cases ending : line.ending with
  | absent => simpa [source, ending, Ending.text] using proper.not_empty ending
  | lineFeed | carriageReturnLineFeed => simp [source, ending, Ending.text]

theorem foldr_extend_cons (text : Text) (line : Line) (lines : List Line) :
    text.foldr extend (line :: lines) = ⟨text ++ line.text, line.ending⟩ :: lines := by
  induction text with
  | nil => rfl
  | cons c text ih => rw [List.foldr_cons, ih, extend, List.cons_append]

theorem foldr_extend_nil (text : Text) (nonempty : text ≠ []) :
    text.foldr extend [] = [⟨text, .absent⟩] := by
  induction text with
  | nil => exact absurd rfl nonempty
  | cons c text ih =>
    cases text with
    | nil => rfl
    | cons d text => rw [List.foldr_cons, ih (by simp), extend]

end Line

namespace Text

open Line

theorem linesOf_cons (c : Char) (rest : Text) (notFeed : c ≠ '\n')
    (notReturn : rest.head? = some '\n' → c ≠ '\r') :
    linesOf (c :: rest) = extend c (linesOf rest) := by
  rw [linesOf]
  · exact notFeed
  · rintro after rfl rfl
    exact notReturn rfl rfl

theorem linesOf_append_of_no_feed (text rest : Text) (noFeed : '\n' ∉ text)
    (noReturn : rest.head? = some '\n' → text.getLast? ≠ some '\r') :
    linesOf (text ++ rest) = text.foldr extend (linesOf rest) := by
  induction text with
  | nil => rfl
  | cons c text ih =>
    simp only [List.mem_cons, not_or] at noFeed
    have later : rest.head? = some '\n' → text.getLast? ≠ some '\r' := by
      intro feed
      cases text with
      | nil => simp
      | cons d text => simpa using noReturn feed
    rw [List.cons_append, linesOf_cons c _ (Ne.symm noFeed.1), ih noFeed.2 later, List.foldr_cons]
    cases text with
    | nil => simpa using noReturn
    | cons d text =>
      intro feed
      simp only [List.mem_cons, not_or] at noFeed
      exact absurd (by simpa using feed) (Ne.symm noFeed.2.1)

theorem linesOf_joined (head behind : Text) (nonempty : head ≠ []) (noFeed : '\n' ∉ head)
    (noReturn : behind.head? = some '\n' → head.getLast? ≠ some '\r') :
    linesOf (head ++ behind) =
      match linesOf behind with
      | [] => [⟨head, .absent⟩]
      | line :: lines => ⟨head ++ line.text, line.ending⟩ :: lines := by
  rw [linesOf_append_of_no_feed head behind noFeed noReturn]
  cases linesOf behind with
  | nil => exact Line.foldr_extend_nil head nonempty
  | cons line lines => exact Line.foldr_extend_cons head line lines

theorem proper_of_mem_linesOf (text : Text) (line : Line) (member : line ∈ linesOf text) :
    line.Proper := by
  fun_induction linesOf text generalizing line with
  | case1 => simp at member
  | case2 rest ih =>
    rcases List.mem_cons.mp member with rfl | later
    · exact ⟨by simp, by simp, by simp⟩
    · exact ih line later
  | case3 rest ih =>
    rcases List.mem_cons.mp member with rfl | later
    · exact ⟨by simp, by simp, by simp⟩
    · exact ih line later
  | case4 c rest notFeed notReturn ih =>
    have whole := flatMap_source_linesOf rest
    cases lines : linesOf rest with
    | nil =>
      rw [lines, extend, List.mem_singleton] at member
      subst member
      exact ⟨by simpa using Ne.symm notFeed, by simp, by simp⟩
    | cons first others =>
      rw [lines] at whole ih
      rw [lines, extend] at member
      rcases List.mem_cons.mp member with rfl | later
      · have proper := ih first (by simp)
        refine ⟨by simpa using ⟨Ne.symm notFeed, proper.no_feed⟩, ?_, by simp⟩
        intro feed
        -- An empty first line means that the feed follows `c` at once.
        cases text : first.text with
        | nil =>
          rintro isReturn
          refine notReturn (others.flatMap source) (by simpa using isReturn) ?_
          rw [← whole]
          simp [source, text, show first.ending = .lineFeed from feed, Ending.text]
        | cons d text' => simpa [text] using proper.no_return feed
      · exact ih line (List.mem_cons_of_mem _ later)

theorem pairwise_closed_linesOf (text : Text) :
    (linesOf text).Pairwise fun line _ => line.Closed := by
  fun_induction linesOf text with
  | case1 => exact .nil
  | case2 rest ih => exact .cons (by simp [Closed]) ih
  | case3 rest ih => exact .cons (by simp [Closed]) ih
  | case4 c rest _ _ ih =>
    cases lines : linesOf rest with
    | nil => simp [extend]
    | cons first others =>
      rw [lines] at ih
      exact .cons (List.pairwise_cons.mp ih).1 (List.pairwise_cons.mp ih).2

theorem linesOf_source_append (line : Line) (rest : Text) (proper : line.Proper)
    (closed : line.Closed) : linesOf (line.source ++ rest) = line :: linesOf rest := by
  obtain ⟨text, ending⟩ := line
  cases ending with
  | absent => exact absurd rfl closed
  | lineFeed =>
    have split := linesOf_append_of_no_feed text ('\n' :: rest) proper.no_feed
      fun _ => proper.no_return rfl
    simpa [source, Ending.text, linesOf, foldr_extend_cons] using split
  | carriageReturnLineFeed =>
    have split := linesOf_append_of_no_feed text ('\r' :: '\n' :: rest) proper.no_feed (by simp)
    simpa [source, Ending.text, linesOf, foldr_extend_cons] using split

theorem linesOf_flatMap_append (lines : List Line) (rest : Text)
    (proper : ∀ line ∈ lines, line.Proper) (closed : ∀ line ∈ lines, line.Closed) :
    linesOf (lines.flatMap source ++ rest) = lines ++ linesOf rest := by
  induction lines with
  | nil => rfl
  | cons line lines ih =>
    rw [List.flatMap_cons, List.append_assoc,
      linesOf_source_append line _ (proper line (by simp)) (closed line (by simp)),
      ih (fun other member => proper other (by simp [member]))
        (fun other member => closed other (by simp [member]))]
    rfl

theorem linesOf_flatMap_source {lines : List Line} (proper : ∀ line ∈ lines, line.Proper)
    (closed : lines.Pairwise fun line _ => line.Closed) : linesOf (lines.flatMap source) = lines := by
  induction lines with
  | nil => rfl
  | cons line lines ih =>
    obtain ⟨first, rest⟩ := List.pairwise_cons.mp closed
    have isProper := proper line (by simp)
    have onward := ih (fun other member => proper other (by simp [member])) rest
    by_cases isClosed : line.Closed
    · rw [List.flatMap_cons, linesOf_source_append line _ isProper isClosed, onward]
    · -- An open line is the last one.
      obtain rfl : lines = [] :=
        List.eq_nil_iff_forall_not_mem.mpr fun other member => isClosed (first other member)
      obtain ⟨text, ending⟩ := line
      obtain rfl : ending = .absent := by simpa [Closed] using isClosed
      have joined := linesOf_joined text [] (isProper.not_empty rfl) isProper.no_feed (by simp)
      simpa [source, Ending.text, linesOf] using joined

theorem linesOf_set {text : Text} {lineIndex : Nat} {line : Line}
    (present : (linesOf text)[lineIndex]? = some line) {written : Text}
    (proper : Line.Proper ⟨written, line.ending⟩) :
    linesOf (((linesOf text).set lineIndex ⟨written, line.ending⟩).flatMap source) =
      (linesOf text).set lineIndex ⟨written, line.ending⟩ := by
  apply linesOf_flatMap_source
  · intro other member
    cases List.mem_or_eq_of_mem_set member with
    | inl old => exact proper_of_mem_linesOf text other old
    | inr new => rwa [new]
  · have onEndings (lines : List Line) : (lines.Pairwise fun line _ => line.Closed) ↔
        (lines.map ending).Pairwise fun ending _ => ending ≠ .absent := by
      rw [List.pairwise_map]
      rfl
    have sameEndings : ((linesOf text).set lineIndex ⟨written, line.ending⟩).map ending =
        (linesOf text).map ending := by
      obtain ⟨within, rfl⟩ := List.getElem?_eq_some_iff.mp present
      rw [List.map_set]
      exact List.ext_getElem (by simp) (by simp +contextual [List.getElem_set])
    rw [onEndings, sameEndings, ← onEndings]
    exact pairwise_closed_linesOf text

theorem getElem?_splitLines_set {text : Text} {lineIndex : Nat} {line : Line}
    (present : (linesOf text)[lineIndex]? = some line) {written : Text}
    (proper : Line.Proper ⟨written, line.ending⟩) :
    (splitLines (((linesOf text).set lineIndex ⟨written, line.ending⟩).flatMap source))[lineIndex]? =
      some written := by
  have within := (List.getElem?_eq_some_iff.mp present).1
  rw [splitLines, linesOf_set present proper, List.getElem?_map, List.getElem?_set_self within]
  rfl

theorem getLast?_source (line : Line) (closed : line.Closed) : line.source.getLast? = some '\n' := by
  cases ending : line.ending with
  | absent => exact absurd ending closed
  | lineFeed => simp [source, ending, Ending.text]
  | carriageReturnLineFeed => simp [source, ending, Ending.text]

theorem getLast?_of_open {text : Text} {line : Line} (member : line ∈ linesOf text)
    (isOpen : line.ending = .absent) : (linesOf text).getLast? = some line := by
  obtain ⟨above, below, lines⟩ := List.append_of_mem member
  have closed := pairwise_closed_linesOf text
  rw [lines, List.pairwise_append, List.pairwise_cons] at closed
  cases below with
  | nil => rw [lines, List.getLast?_concat]
  | cons next others => exact absurd isOpen (closed.2.1.1 next (by simp))

theorem forall_closed_of_last {text : Text}
    (noneOpen : ∀ written, (linesOf text).getLast? ≠ some ⟨written, .absent⟩) :
    ∀ line ∈ linesOf text, line.Closed := by
  intro line member isOpen
  apply noneOpen line.text
  rw [getLast?_of_open member isOpen, ← isOpen]

theorem getLast?_eq_of_last {text : Text} {last : Line}
    (isLast : (linesOf text).getLast? = some last) : text.getLast? = last.source.getLast? := by
  obtain ⟨above, lines⟩ := List.getLast?_eq_some_iff.mp isLast
  have proper := proper_of_mem_linesOf text last (by simp [lines])
  have whole := flatMap_source_linesOf text
  rw [lines, List.flatMap_append, List.flatMap_singleton] at whole
  rw [← whole, List.getLast?_append, List.getLast?_eq_some_getLast (source_ne_nil proper),
    Option.some_or]

theorem forall_closed_iff (text : Text) :
    (∀ line ∈ linesOf text, line.Closed) ↔ text = [] ∨ text.getLast? = some '\n' := by
  constructor
  · intro closed
    cases isLast : (linesOf text).getLast? with
    | none =>
      have noLine := List.getLast?_eq_none_iff.mp isLast
      exact .inl (by simpa [noLine] using (flatMap_source_linesOf text).symm)
    | some last =>
      right
      rw [getLast?_eq_of_last isLast]
      exact getLast?_source last (closed last (List.mem_of_getLast? isLast))
  · intro ends line member isOpen
    have endsWith := getLast?_eq_of_last (getLast?_of_open member isOpen)
    rw [source, isOpen, Ending.text, List.append_nil] at endsWith
    rcases ends with rfl | feed
    · simp [linesOf] at member
    · rw [feed] at endsWith
      exact (proper_of_mem_linesOf text line member).no_feed (List.mem_of_getLast? endsWith.symm)

theorem getLast?_flatMap_source_ne {c : Char} (lines : List Line)
    (closed : ∀ line ∈ lines, line.Closed) (notFeed : c ≠ '\n') :
    (lines.flatMap source).getLast? ≠ some c := by
  induction lines with
  | nil => simp
  | cons line lines ih =>
    have later := ih fun other member => closed other (by simp [member])
    rw [List.flatMap_cons, List.getLast?_append, getLast?_source line (closed line (by simp))]
    cases rest : (lines.flatMap source).getLast? with
    | none => simpa using Ne.symm notFeed
    | some d => simpa [rest] using later

theorem startsAfterFeeds_append (offset : Nat) (before after : Text) :
    startsAfterFeeds offset (before ++ after) =
      startsAfterFeeds offset before ++ startsAfterFeeds (offset + width before) after := by
  induction before generalizing offset with
  | nil => simp [startsAfterFeeds]
  | cons c before ih =>
    simp only [List.cons_append, startsAfterFeeds, width_cons, ih, ← Nat.add_assoc]
    split <;> simp

theorem startsAfterFeeds_of_no_feed (offset : Nat) (text : Text) (noFeed : '\n' ∉ text) :
    startsAfterFeeds offset text = [] := by
  induction text generalizing offset with
  | nil => rfl
  | cons c text ih =>
    simp only [List.mem_cons, not_or] at noFeed
    simp [startsAfterFeeds, Ne.symm noFeed.1, ih _ noFeed.2]

theorem startsAfterFeeds_source (offset : Nat) (line : Line) (proper : line.Proper)
    (closed : line.Closed) :
    startsAfterFeeds offset line.source = [offset + width line.source] := by
  rw [source, startsAfterFeeds_append, startsAfterFeeds_of_no_feed offset _ proper.no_feed]
  cases ending : line.ending with
  | absent => exact absurd ending closed
  | lineFeed => simp [startsAfterFeeds, Ending.text, Nat.add_assoc]
  | carriageReturnLineFeed => simp [startsAfterFeeds, Ending.text, Nat.add_assoc]

theorem getElem?_startsAfterFeeds (offset : Nat) (lines : List Line) (rest : Text)
    (proper : ∀ line ∈ lines, line.Proper) (closed : ∀ line ∈ lines, line.Closed) :
    (offset :: startsAfterFeeds offset (lines.flatMap source ++ rest))[lines.length]? =
      some (offset + width (lines.flatMap source)) := by
  induction lines generalizing offset with
  | nil => simp
  | cons line lines ih =>
    rw [List.flatMap_cons, List.append_assoc, startsAfterFeeds_append,
      startsAfterFeeds_source offset line (proper line (by simp)) (closed line (by simp)),
      List.length_cons, List.getElem?_cons_succ, List.singleton_append,
      ih _ (fun other member => proper other (by simp [member]))
        (fun other member => closed other (by simp [member])), width_append, Nat.add_assoc]

theorem length_startsAfterFeeds (offset : Nat) (lines : List Line) (rest : Text)
    (proper : ∀ line ∈ lines, line.Proper) (closed : ∀ line ∈ lines, line.Closed)
    (noFeed : '\n' ∉ rest) :
    (startsAfterFeeds offset (lines.flatMap source ++ rest)).length = lines.length := by
  induction lines generalizing offset with
  | nil => simp [startsAfterFeeds_of_no_feed offset rest noFeed]
  | cons line lines ih =>
    rw [List.flatMap_cons, List.append_assoc, startsAfterFeeds_append,
      startsAfterFeeds_source offset line (proper line (by simp)) (closed line (by simp)),
      List.length_append, ih _ (fun other member => proper other (by simp [member]))
        (fun other member => closed other (by simp [member]))]
    simp [Nat.add_comm]

end Text

end CourseLint
