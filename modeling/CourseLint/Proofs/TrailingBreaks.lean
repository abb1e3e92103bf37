import CourseLint.Proofs.NamedLines

set_option autoImplicit false

namespace CourseLint

open Text

namespace Text

def lastEnding (lines : List Line) : Ending := (lines.getLast?.map Line.ending).getD .absent

def endingAbove (source : Text) (lineIndex : Nat) : Ending :=
  lastEnding ((linesOf source).take lineIndex)

variable {source : Text} {lineIndex : Nat}

theorem no_feed_of_named {line : Line} (named : line ∈ namedLines source) : '\n' ∉ line.text := by
  obtain ⟨closed, last, isNamed, -, proper, -, noFeed⟩ := exists_namedLines source
  rw [isNamed, List.mem_append, List.mem_singleton] at named
  cases named with
  | inl above => exact (proper line above).no_feed
  | inr isLast => rwa [isLast]

theorem exists_part_of_line {line : Line} {before : Text} {column : Nat}
    (named : (namedLines source)[lineIndex]? = some line) (isFront : before <+: source)
    (reached : width before = lineStart source lineIndex + column)
    (inside : column ≤ width line.text) :
    ∃ part, before = ((linesOf source).take lineIndex).flatMap Line.source ++ part ∧
      part <+: line.text ∧ width part = column := by
  have within := (List.getElem?_eq_some_iff.mp named).1
  have start := lineStart_eq_width_above within
  have whole := source_eq_around named
  rw [take_namedLines within, Line.source, List.append_assoc] at whole
  generalize ((linesOf source).take lineIndex).flatMap Line.source = above at start whole ⊢
  have aboveFront : above <+: source := ⟨_, whole.symm⟩
  have lineFront : above ++ line.text <+: source := ⟨_, by rw [List.append_assoc, ← whole]⟩
  obtain ⟨part, rfl⟩ := prefix_of_width_le aboveFront isFront (by omega)
  rw [width_append] at reached
  have upToEnd := prefix_of_width_le isFront lineFront (by simp only [width_append]; omega)
  exact ⟨part, rfl, (List.prefix_append_right_inj _).mp upToEnd, by omega⟩

theorem closed_of_mem_take (within : lineIndex < (namedLines source).length) :
    ∀ line ∈ (linesOf source).take lineIndex, line.Closed := by
  obtain ⟨closed, last, isNamed, -, -, isClosed, -⟩ := exists_namedLines source
  rw [← take_namedLines within, isNamed]
  rw [isNamed, List.length_append, List.length_singleton] at within
  rw [List.take_append_of_le_length (Nat.le_of_lt_succ within)]
  exact fun line member => isClosed line (List.mem_of_mem_take member)

theorem lastEnding_in_front {before : Text} {column stop : Nat}
    (leads : Position.LeadsTo source ⟨lineIndex + 1, column + 1⟩ stop)
    (onLine : OnNamedLine source lineIndex stop) (isFront : before <+: source)
    (reached : width before = stop) :
    lastEnding (linesOf before) = if column = 0 then endingAbove source lineIndex else .absent := by
  cases leads with
  | counted _ _ _ within counts _ =>
    obtain ⟨line, named⟩ : ∃ line, (namedLines source)[lineIndex]? = some line :=
      ⟨_, List.getElem?_eq_getElem within⟩
    have bound := onLine.le_line_end named
    obtain ⟨part, rfl, inLine, measured⟩ :=
      exists_part_of_line named isFront (reached.trans counts) (by omega)
    have lines := linesOf_flatMap_append ((linesOf source).take lineIndex) part
      (fun other member => proper_of_mem_linesOf source other (List.mem_of_mem_take member))
      (closed_of_mem_take within)
    by_cases first : column = 0
    · rw [first, width_eq_zero_iff] at measured
      rw [lines, measured, if_pos first, endingAbove, linesOf, List.append_nil]
    · have nonempty : part ≠ [] := by
        rintro rfl
        exact first measured.symm
      have noFeed : '\n' ∉ part := fun isFeed =>
        no_feed_of_named (List.mem_of_getElem? named) (inLine.subset isFeed)
      have isOpen := linesOf_joined part [] nonempty noFeed (by simp)
      rw [List.append_nil] at isOpen
      rw [lines, isOpen, if_neg first]
      simp [lastEnding, linesOf]
  | behind =>
    have isWhole : before = source := eq_of_width_eq isFront (List.prefix_refl source) reached
    have all : (linesOf source).take (namedLines source).length = linesOf source :=
      List.take_of_length_le (linesOf_prefix_namedLines source).length_le
    rw [isWhole, if_pos rfl, endingAbove, all]

end Text

namespace Edit

theorem adaptEnding_eq (before text : Text) :
    adaptEnding before (text ++ ['\n']) = text ++ (lastEnding (linesOf before)).text := by
  have whole := flatMap_source_linesOf before
  have closed := pairwise_closed_linesOf before
  have proper := proper_of_mem_linesOf before
  cases List.eq_nil_or_concat (linesOf before) with
  | inl none =>
    rw [none] at whole ⊢
    rw [← whole, adaptEnding_open _ _ (by simp)]
    simp [lastEnding, Ending.text]
  | inr some =>
    obtain ⟨above, line, split⟩ := some
    rw [List.concat_eq_append] at split
    rw [split] at whole closed proper ⊢
    have aboveClosed : ∀ other ∈ above, other.Closed := by
      intro other member
      rw [List.pairwise_append] at closed
      exact closed.2.2 other member line (List.mem_singleton_self _)
    rw [← whole, List.flatMap_append, List.flatMap_singleton,
      adaptEnding_behind_line aboveClosed (proper line (by simp))]
    simp [lastEnding]

theorem ofDiagnostics_append {source : Text} (front rest : List Diagnostic) :
    (ofDiagnostics source (front ++ rest)).1 =
      (ofDiagnostics source front).1 ++ (ofDiagnostics source rest).1 := by
  simp [ofDiagnostics]

theorem ofDiagnostics_cons {source : Text} {diagnostic : Diagnostic} {edit : Edit}
    (placed : diagnostic.suggestion.bind (ofSuggestion? source) = some edit)
    (rest : List Diagnostic) :
    (ofDiagnostics source (diagnostic :: rest)).1 = edit :: (ofDiagnostics source rest).1 := by
  obtain ⟨suggestion, suggested, isEdit⟩ := Option.bind_eq_some_iff.mp placed
  simp [ofDiagnostics, suggested, isEdit]

end Edit

theorem Ending.text_eq_feed_iff (ending : Ending) : ending.text = ['\n'] ↔ ending = .lineFeed := by
  cases ending <;> decide

theorem break_in_line_follows_line_above (source text : Text)
    (lineIndex column column' start stop : Nat)
    (leadsStart : Position.LeadsTo source ⟨lineIndex + 1, column + 1⟩ start)
    (leadsStop : Position.LeadsTo source ⟨lineIndex + 1, column' + 1⟩ stop)
    (forward : start ≤ stop) :
    ∃ (edit : Edit) (before after : Text), source = before ++ after ∧ width before = stop ∧
      edit.start = start ∧ edit.stop = stop ∧
      (∀ diagnostic : Diagnostic, diagnostic.suggestion =
          some ⟨text, ⟨⟨lineIndex + 1, column + 1⟩, ⟨lineIndex + 1, column' + 1⟩⟩⟩ →
        ∀ earlier later,
          (Edit.ofDiagnostics source (earlier ++ diagnostic :: later)).1 =
            (Edit.ofDiagnostics source earlier).1 ++
              edit :: (Edit.ofDiagnostics source later).1) ∧
      (edit.text = text ↔
        (text.getLast? = some '\n' → lastEnding (linesOf before) = .lineFeed)) ∧
      (∀ body, text = body ++ ['\n'] →
        edit.text = body ++ (lastEnding (linesOf before)).text) ∧
      (OnNamedLine source lineIndex stop →
        lastEnding (linesOf before) =
          if column' = 0 then endingAbove source lineIndex else .absent) := by
  let suggestion : Suggestion :=
    ⟨text, ⟨⟨lineIndex + 1, column + 1⟩, ⟨lineIndex + 1, column' + 1⟩⟩⟩
  have foundStart : Edit.offsetOf? source suggestion.range.start = some start :=
    Edit.offsetOf?_eq_some_iff.mpr leadsStart
  have foundStop : Edit.offsetOf? source suggestion.range.stop = some stop :=
    Edit.offsetOf?_eq_some_iff.mpr leadsStop
  obtain ⟨before, ⟨after, whole⟩, reached, placed⟩ :=
    Edit.ofSuggestion?_eq_some foundStart foundStop forward
  have behindBody (body : Text) (isText : text = body ++ ['\n']) :
      Edit.adaptEnding before text = body ++ (lastEnding (linesOf before)).text := by
    rw [isText]
    exact Edit.adaptEnding_eq before body
  let edit : Edit := ⟨start, stop, Edit.adaptEnding before text⟩
  refine ⟨edit, before, after, whole.symm, reached, rfl, rfl, ?_, ?_, behindBody, ?_⟩
  · intro diagnostic suggested earlier later
    rw [Edit.ofDiagnostics_append, Edit.ofDiagnostics_cons (by rw [suggested]; exact placed)]
  · change Edit.adaptEnding before text = text ↔ _
    by_cases ends : text.getLast? = some '\n'
    · obtain ⟨body, isText⟩ := List.getLast?_eq_some_iff.mp ends
      rw [behindBody body isText, isText, List.append_cancel_left_eq, Ending.text_eq_feed_iff]
      simp
    · have same := Edit.adaptEnding_of_no_feed before text ends
      simp [same, ends]
  · intro onLine
    exact lastEnding_in_front leadsStop onLine ⟨after, whole⟩ reached

def Diagnostic.asking (suggestion : Suggestion) : Diagnostic :=
  ⟨"tutorial.md", suggestion.range, .warning, none, "Mark", some suggestion⟩

def secondLine : Text := "a\r\nb"

def lineInFront : Suggestion := ⟨"x\n", ⟨⟨2, 1⟩, ⟨2, 1⟩⟩⟩

theorem break_in_line_follows_carriage_return :
    Position.LeadsTo secondLine ⟨2, 1⟩ 3 ∧ OnNamedLine secondLine 1 3 ∧
      ∃ edit : Edit, edit.start = 3 ∧ edit.stop = 3 ∧ edit.text = "x\r\n".toList ∧
        edit ∈ (Edit.ofDiagnostics secondLine [Diagnostic.asking lineInFront]).1 := by
  have leads : Position.LeadsTo secondLine ⟨2, 1⟩ 3 := Edit.offsetOf?_eq_some_iff.mp (by decide)
  have onLine : OnNamedLine secondLine 1 3 :=
    .inside 1 3 ⟨"b", .absent⟩ (by decide) (by decide) (by decide)
  obtain ⟨edit, before, after, -, -, start, stop, placed, -, adapted, inFront⟩ :=
    break_in_line_follows_line_above secondLine "x\n" 1 0 0 3 3 leads leads (Nat.le_refl 3)
  have isEdit := placed (Diagnostic.asking lineInFront) rfl [] []
  have above : endingAbove secondLine 1 = .carriageReturnLineFeed := by decide
  refine ⟨leads, onLine, edit, start, stop, ?_, ?_⟩
  · rw [adapted ['x'] rfl, inFront onLine, if_pos rfl, above]
    rfl
  · rw [List.nil_append] at isEdit
    simp [isEdit]

def firstOfTwo : Suggestion := ⟨"x\n", ⟨⟨1, 1⟩, ⟨1, 2⟩⟩⟩

theorem break_in_line_is_not_kept :
    OnNamedLine "ab\n".toList 0 0 ∧ OnNamedLine "ab\n".toList 0 1 ∧
      Edit.ofDiagnostics "ab\n".toList [Diagnostic.asking firstOfTwo] = ([⟨0, 1, ['x']⟩], 0) ∧
      Edit.applyAll "ab\n".toList [⟨0, 1, ['x']⟩] = some ⟨"xb\n".toList, 1, 0⟩ ∧
      Edit.ofDiagnostics secondLine [Diagnostic.asking lineInFront] =
        ([⟨3, 3, "x\r\n".toList⟩], 0) := by
  have named : (namedLines "ab\n".toList)[0]? = some ⟨"ab", .lineFeed⟩ := by decide
  have onLine (offset : Nat) (inside : offset ≤ 2) : OnNamedLine "ab\n".toList 0 offset :=
    .inside 0 offset _ named (Nat.zero_le offset) inside
  exact ⟨onLine 0 (by decide), onLine 1 (by decide), by decide, by decide, by decide⟩

end CourseLint
