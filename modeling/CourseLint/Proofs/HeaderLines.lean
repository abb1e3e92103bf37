import CourseLint.Proofs.Cuts
import CourseLint.Proofs.EntryHeadings
import CourseLint.Proofs.HeaderExpressions
import CourseLint.Proofs.Reports

set_option autoImplicit false

namespace CourseLint

open Text

structure HeaderParts (key line : Text) where
  indent : Text
  between : Text
  after : Text
  line_eq : line = indent ++ '@' :: between ++ '{' :: key ++ ',' :: after
  indent_blank : ∀ c ∈ indent, isBlankChar c = true

def HeaderParts.front {key line : Text} (parts : HeaderParts key line) : Text :=
  parts.indent ++ '@' :: parts.between

theorem HeaderParts.line_eq_front {key line : Text} (parts : HeaderParts key line) :
    line = parts.front ++ ('{' :: key ++ [',']) ++ parts.after :=
  parts.line_eq.trans (by simp [front])

def LooksLikeHeader (key line : Text) : Prop := Nonempty (HeaderParts key line)

def IsHeader (key line : Text) : Prop := ∃ parts : HeaderParts key line, '\n' ∉ parts.between

theorem isHeader_iff_looksLikeHeader {key line : Text} (noFeed : '\n' ∉ line) :
    IsHeader key line ↔ LooksLikeHeader key line := by
  constructor
  · rintro ⟨parts, -⟩
    exact ⟨parts⟩
  · rintro ⟨parts⟩
    refine ⟨parts, fun feed => noFeed ?_⟩
    rw [parts.line_eq]
    simp [feed]

namespace Pattern

theorem isSome_matchAt_entryHeader_iff {key line : Text} :
    ((entryHeader key).matchAt 0 line).isSome = true ↔ IsHeader key line := by
  constructor
  · intro matched
    obtain ⟨found, isFound⟩ := Option.isSome_iff_exists.mp matched
    have fromStart : (entryHeader key).matchAt (width []) line = some found := isFound
    obtain ⟨covered, after, captures, rfl, fits, -⟩ := exists_fit_of_matchAt fromStart
    obtain ⟨indent, between, rfl, blank, plain⟩ := (fits_entryHeader_iff _ _ _).mp ⟨captures, fits⟩
    exact ⟨⟨indent, between, after, by simp, blank⟩, plain⟩
  · rintro ⟨⟨indent, between, after, rfl, blank⟩, plain⟩
    obtain ⟨_, fits⟩ := (fits_entryHeader_iff key _ after).mpr ⟨indent, between, rfl, blank, plain⟩
    obtain ⟨found, matched⟩ := exists_matchAt_of_fits fits
    rw [width_nil] at matched
    simpa using Option.isSome_of_eq_some matched

end Pattern

theorem Rule.headerSpans_eq [Pattern.Engine] (key : Text) (lines : List Text) :
    headerSpans key lines =
      if (Pattern.entryHeader? key).isSome then
        (lines.zipIdx.filter fun (line, _) =>
          ((Pattern.entryHeader key).matchAt 0 line).isSome).map fun (line, lineIndex) =>
            Span.wholeLine lineIndex line
      else [] := by
  rw [headerSpans]
  cases built : Pattern.entryHeader? key with
  | none => rfl
  | some header =>
    obtain rfl := Pattern.eq_of_entryHeader? built
    rfl

theorem Rule.mem_headerSpans_iff [Pattern.Engine] {key : Text} {lines : List Text} {span : Span} :
    span ∈ headerSpans key lines ↔
      (Pattern.entryHeader? key).isSome = true ∧
        ∃ lineIndex line, lines[lineIndex]? = some line ∧ IsHeader key line ∧
          span = Span.wholeLine lineIndex line := by
  rw [headerSpans_eq]
  split
  · next built =>
    simp only [built, true_and, List.mem_map, List.mem_filter, Prod.exists,
      List.mk_mem_zipIdx_iff_getElem?, Pattern.isSome_matchAt_entryHeader_iff]
    constructor
    · rintro ⟨line, lineIndex, ⟨present, isHeader⟩, rfl⟩
      exact ⟨lineIndex, line, present, isHeader, rfl⟩
    · rintro ⟨lineIndex, line, present, isHeader, rfl⟩
      exact ⟨line, lineIndex, ⟨present, isHeader⟩, rfl⟩
  · next unbuilt => simp [unbuilt]

namespace Text

def lineFront (front : Text) : Text := front.rtakeWhile (· != '\n')

def linesAbove (front : Text) : Text := front.rdropWhile (· != '\n')

theorem append_lineFront (front : Text) : linesAbove front ++ lineFront front = front :=
  List.rdropWhile_append_rtakeWhile

theorem no_feed_lineFront (front : Text) : '\n' ∉ lineFront front := by
  intro feed
  simpa using List.mem_rtakeWhile_imp feed

theorem closed_of_linesAbove (front : Text) : ∀ line ∈ linesOf (linesAbove front), line.Closed := by
  rw [forall_closed_iff]
  by_cases empty : linesAbove front = []
  · exact .inl empty
  · have last : (linesAbove front).getLast empty = '\n' := by
      simpa [linesAbove] using List.rdropWhile_last_not (· != '\n') front empty
    exact .inr (by rw [List.getLast?_eq_some_getLast empty, last])

theorem count_flatMap_source (lines : List Line) (proper : ∀ line ∈ lines, line.Proper)
    (closed : ∀ line ∈ lines, line.Closed) :
    (lines.flatMap Line.source).count '\n' = lines.length := by
  induction lines with
  | nil => rfl
  | cons line lines ih =>
    have one : line.source.count '\n' = 1 := by
      have none := List.count_eq_zero.mpr (proper line (by simp)).no_feed
      cases ending : line.ending with
      | absent => exact absurd ending (closed line (by simp))
      | lineFeed => simp [Line.source, ending, Ending.text, none]
      | carriageReturnLineFeed => simp [Line.source, ending, Ending.text, none]
    rw [List.flatMap_cons, List.count_append, one,
      ih (fun other member => proper other (by simp [member]))
        (fun other member => closed other (by simp [member])), List.length_cons, Nat.add_comm]

theorem exists_line_of_parts (front middle rest : Text) (noFeed : '\n' ∉ middle)
    (ends : ∃ c, middle.getLast? = some c ∧ c ≠ '\r') :
    ∃ tail, (splitLines (front ++ middle ++ rest))[front.count '\n']? =
      some (lineFront front ++ middle ++ tail) := by
  obtain ⟨last, isLast, notReturn⟩ := ends
  have nonempty : middle ≠ [] := by
    rintro rfl
    simp at isLast
  have parts := append_lineFront front
  have noFeedFront := no_feed_lineFront front
  have closed := closed_of_linesAbove front
  have whole := flatMap_source_linesOf (linesAbove front)
  -- The lines above are closed, so splitting the text splits them off.
  generalize lineFront front = head at parts noFeedFront ⊢
  generalize linesAbove front = above at parts closed whole
  have proper := proper_of_mem_linesOf above
  have split : linesOf (front ++ middle ++ rest) =
      linesOf above ++ linesOf (head ++ middle ++ rest) := by
    rw [← linesOf_flatMap_append _ _ proper closed, whole, ← parts]
    simp
  have joined := linesOf_joined (head ++ middle) rest (by simp [nonempty])
    (by simp [noFeed, noFeedFront]) (by simp [isLast, notReturn])
  have number : front.count '\n' = (linesOf above).length := by
    rw [← count_flatMap_source _ proper closed, whole, ← parts, List.count_append,
      List.count_eq_zero.mpr noFeedFront, Nat.add_zero]
  rw [splitLines, split, List.getElem?_map, number, List.getElem?_append_right (Nat.le_refl _),
    Nat.sub_self, joined]
  cases linesOf rest with
  | nil => exact ⟨[], by simp⟩
  | cons line lines => exact ⟨line.text, rfl⟩

theorem append_inj_of_width {front front' back back' : Text}
    (same : front ++ back = front' ++ back') (measured : width front = width front') :
    front = front' ∧ back = back' := by
  have cut := splitAtByte?_append front back
  rw [same, measured, splitAtByte?_append] at cut
  obtain ⟨rfl, rfl⟩ := Prod.mk.inj (Option.some.inj cut)
  exact ⟨rfl, rfl⟩

theorem suffix_of_last {c : Char} {front front' back back' : Text}
    (same : front ++ c :: back = front' ++ c :: back') (last : c ∉ back') : back' <:+ back := by
  rcases List.append_eq_append_iff.mp same with ⟨middle, -, here⟩ | ⟨middle, -, here⟩
  · cases middle with
    | nil => simp_all
    | cons d middle => exact ⟨middle ++ [c], by simp_all⟩
  · cases middle with
    | nil => simp_all
    | cons d middle => simp_all

end Text

theorem HeaderParts.exists_cut {text key line : Text} {lineIndex start : Nat}
    (parts : HeaderParts key line) (present : (splitLines text)[lineIndex]? = some line)
    (isStart : (lineStarts text)[lineIndex]? = some start) :
    ∃ above behind, text = above ++ parts.front ++ '{' :: (key ++ ',' :: behind) ∧
      width above = start ∧ (above ++ parts.front).count '\n' = lineIndex := by
  have noFeed : '\n' ∉ parts.front := by
    have whole := no_feed_of_mem_splitLines (List.mem_of_getElem? present)
    rw [parts.line_eq_front] at whole
    exact fun feed => whole (by simp [feed])
  rw [splitLines, List.getElem?_map] at present
  obtain ⟨whole, isWhole, isLine⟩ := Option.map_eq_some_iff.mp present
  obtain ⟨piece, atLine, rfl, isFront, isCovered, -⟩ := exists_piece parts.front
    ('{' :: key ++ [',']) parts.after isWhole (isLine ▸ parts.line_eq_front)
  refine ⟨piece.before.flatMap Line.source, piece.swallowed ++ piece.behind, ?_, ?_, ?_⟩
  · conv => lhs; rw [piece.source_eq, Piece.front, Piece.replaced, isFront, isCovered]
    simp
  · exact Option.some.inj (piece.getElem?_lineStarts.symm.trans (atLine ▸ isStart))
  · rw [List.count_append, List.count_eq_zero.mpr noFeed, Nat.add_zero,
      count_flatMap_source _ piece.before_proper piece.before_closed, atLine]

namespace Bibliography

def Heading.lineIndex (heading : Heading) : Nat := heading.front.count '\n'

structure Heading.Plain (heading : Heading) : Prop where
  lineFront_blank : ∀ c ∈ lineFront heading.front, isBlankChar c = true
  kindGap_within : '\n' ∉ heading.kindGap
  delimiter_eq : heading.delimiter = '{'
  keyGap_eq : heading.keyGap = []
  commaGap_eq : heading.commaGap = []

def Entry.opening (entry : Entry) (heading : Heading) : Nat :=
  width (heading.front ++ '@' :: entry.kind ++ heading.kindGap)

theorem not_mem_of_clean {accepts : Char → Bool} {c : Char} {name : Text}
    (clean : ∀ c ∈ name, accepts c = true) (other : accepts c = false) : c ∉ name := by
  intro member
  simp [clean c member] at other

theorem isBlankChar_of_ofKey {c : Char} (clean : ofKey c = true) : isBlankChar c = false := by
  rw [ofKey, Bool.and_eq_true, Bool.not_eq_true'] at clean
  exact clean.2

theorem not_ofKey_of_gap {c : Char} {gap rest : Text} (blank : ∀ c ∈ gap, isBlankChar c = true)
    (first : (gap ++ ',' :: rest).head? = some c) : ofKey c = false := by
  cases gap with
  | nil =>
    obtain rfl := Option.some.inj first
    rfl
  | cons d gap =>
    obtain rfl := Option.some.inj first
    simp [ofKey, blank d]

theorem key_eq_of_gaps {keyGap key key' commaGap rest rest' : Text}
    (keyGap_blank : ∀ c ∈ keyGap, isBlankChar c = true)
    (commaGap_blank : ∀ c ∈ commaGap, isBlankChar c = true) (clean : ∀ c ∈ key, ofKey c = true)
    (clean' : ∀ c ∈ key', ofKey c = true)
    (same : keyGap ++ (key ++ (commaGap ++ ',' :: rest)) = key' ++ ',' :: rest') : key = key' := by
  have noGap : keyGap = [] := by
    cases keyGap with
    | nil => rfl
    | cons c keyGap =>
      have blank := keyGap_blank c (by simp)
      cases key' with
      | nil =>
        obtain ⟨rfl, -⟩ := List.cons.inj same
        exact absurd blank (by decide)
      | cons d key' =>
        obtain ⟨rfl, -⟩ := List.cons.inj same
        simp [isBlankChar_of_ofKey (clean' c (by simp))] at blank
  subst noGap
  have byKey : (key ++ (commaGap ++ ',' :: rest)).takeWhile ofKey = key :=
    takeWhile_run clean fun _ first => not_ofKey_of_gap commaGap_blank first
  have byKey' : (key' ++ ',' :: rest').takeWhile ofKey = key' :=
    takeWhile_run clean' fun _ first => Option.some.inj first ▸ rfl
  rw [List.nil_append] at same
  rw [← byKey, same, byKey']

namespace Entry.HeadedBy

variable {text : Text} {entry : Entry} {heading : Heading}

theorem no_at_sign (headed : entry.HeadedBy text heading) :
    '@' ∉ entry.kind ++ heading.kindGap := by
  have inKind : '@' ∉ entry.kind := not_mem_of_clean headed.kind_clean rfl
  have inGap : '@' ∉ heading.kindGap := not_mem_of_clean headed.kindGap_blank rfl
  simp [inKind, inGap]

theorem exists_line (headed : entry.HeadedBy text heading) :
    ∃ line, (splitLines text)[heading.lineIndex]? = some line := by
  obtain ⟨tail, present⟩ := exists_line_of_parts heading.front ['@']
    (entry.kind ++ heading.kindGap ++ heading.delimiter :: heading.keyGap ++ entry.key ++
      heading.commaGap ++ ',' :: heading.rest) (by decide) ⟨'@', rfl, by decide⟩
  have parts := headed.text_eq
  simp only [List.append_assoc, List.cons_append, List.nil_append] at parts present
  rw [← parts] at present
  exact ⟨_, present⟩

theorem looksLikeHeader (headed : entry.HeadedBy text heading) (plain : heading.Plain) {line : Text}
    (present : (splitLines text)[heading.lineIndex]? = some line) :
    LooksLikeHeader entry.key line := by
  have noFeed : '\n' ∉ '@' :: entry.kind ++ heading.kindGap ++ '{' :: entry.key ++ [','] := by
    have inKind : '\n' ∉ entry.kind := not_mem_of_clean headed.kind_clean rfl
    have inKey : '\n' ∉ entry.key := not_mem_of_clean headed.key_clean rfl
    simp [inKind, inKey, plain.kindGap_within]
  obtain ⟨tail, here⟩ := exists_line_of_parts heading.front _ heading.rest noFeed
    ⟨',', List.getLast?_concat, by decide⟩
  have parts := headed.text_eq
  rw [plain.delimiter_eq, plain.keyGap_eq, plain.commaGap_eq] at parts
  have whole : heading.front ++
      ('@' :: entry.kind ++ heading.kindGap ++ '{' :: entry.key ++ [',']) ++ heading.rest = text := by
    simp [parts]
  rw [whole] at here
  obtain rfl := Option.some.inj (present.symm.trans here)
  exact ⟨⟨lineFront heading.front, entry.kind ++ heading.kindGap, tail, by simp,
    plain.lineFront_blank⟩⟩

theorem of_header (headed : entry.HeadedBy text heading) {key line : Text} {lineIndex start : Nat}
    (clean : ∀ c ∈ key, ofKey c = true) (present : (splitLines text)[lineIndex]? = some line)
    (isStart : (lineStarts text)[lineIndex]? = some start) (parts : HeaderParts key line)
    (opens : entry.opening heading = start + width parts.front) :
    heading.lineIndex = lineIndex ∧ entry.key = key := by
  obtain ⟨above, behind, isText, rfl, isIndex⟩ := parts.exists_cut present isStart
  have same : heading.front ++ '@' :: (entry.kind ++ heading.kindGap) ++ heading.delimiter ::
      (heading.keyGap ++ (entry.key ++ (heading.commaGap ++ ',' :: heading.rest))) =
        above ++ parts.front ++ '{' :: (key ++ ',' :: behind) := by
    rw [← isText, headed.text_eq]
    simp
  have measured : width (heading.front ++ '@' :: (entry.kind ++ heading.kindGap)) =
      width (above ++ parts.front) := by
    rw [width_append above, ← opens, Entry.opening, List.append_assoc, List.cons_append]
  obtain ⟨sameFront, sameBack⟩ := append_inj_of_width same measured
  constructor
  · -- The last at sign in front of the brace is that of the entry, so no line ends behind it.
    have behindSign : entry.kind ++ heading.kindGap <:+ parts.between := by
      rw [HeaderParts.front, ← List.append_assoc] at sameFront
      exact suffix_of_last sameFront.symm headed.no_at_sign
    have within : '\n' ∉ entry.kind ++ heading.kindGap := fun feed =>
      no_feed_of_mem_splitLines (List.mem_of_getElem? present)
        (by simp [parts.line_eq, behindSign.mem feed])
    rw [← sameFront, List.count_append, List.count_cons_of_ne (by decide),
      List.count_eq_zero.mpr within, Nat.add_zero] at isIndex
    exact isIndex
  · obtain ⟨-, sameKey⟩ := List.cons.inj sameBack
    exact key_eq_of_gaps headed.keyGap_blank headed.commaGap_blank headed.key_clean clean sameKey

end Entry.HeadedBy

end Bibliography

end CourseLint
