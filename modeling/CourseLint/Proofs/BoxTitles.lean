import CourseLint.Proofs.Cuts
import CourseLint.Proofs.LeftToRight
import CourseLint.Proofs.LostDelimiters

set_option autoImplicit false

namespace CourseLint

open Text

namespace Pattern

theorem anchored_boxTitle : boxTitle.Anchored := by
  intro before covered after captures fits
  obtain ⟨_, _, _, _, _, start, -⟩ := boxTitle_parts fits
  exact start

section Greedy

def EndsGreedily (accepts : Char → Bool) : Pattern → Prop
  | .longest accepts' => accepts' = accepts
  | .seq _ second => second.EndsGreedily accepts
  | .group _ body => body.EndsGreedily accepts
  | _ => False

variable {accepts : Char → Bool}

theorem endsLongest_ne_nil (text : Text) (place : Place) : endsLongest accepts text place ≠ [] := by
  cases text with
  | nil => exact List.cons_ne_nil _ _
  | cons c rest =>
    rw [endsLongest]
    split <;> simp

theorem head?_endsLongest {text : Text} {place found : Place} (atText : place.rest = text)
    (first : (endsLongest accepts text place).head? = some found) :
    ∀ c ∈ found.rest.head?, accepts c = false := by
  induction text generalizing place with
  | nil =>
    obtain rfl : place = found := by simpa [endsLongest] using first
    simp [atText]
  | cons c rest ih =>
    by_cases accepted : accepts c = true
    · rw [endsLongest, if_pos accepted, List.head?_append_of_ne_nil _ (endsLongest_ne_nil _ _)] at first
      exact ih rfl first
    · obtain rfl : place = found := by simpa [endsLongest, accepted] using first
      simpa [atText] using accepted

theorem EndsGreedily.head?_ends {pattern : Pattern} (greedy : pattern.EndsGreedily accepts)
    {place found : Place} (first : (pattern.ends place).head? = some found) :
    ∀ c ∈ found.rest.head?, accepts c = false := by
  induction pattern generalizing place found with
  | longest accepts' =>
    obtain rfl : accepts' = accepts := greedy
    exact head?_endsLongest rfl first
  | seq front back ihFront ihBack =>
    rw [ends, List.head?_flatMap] at first
    obtain ⟨between, -, further⟩ := List.exists_of_findSome?_eq_some first
    exact ihBack greedy further
  | group index body ih =>
    rw [ends, List.head?_map, Option.map_eq_some_iff] at first
    obtain ⟨inner, innerFirst, rfl⟩ := first
    have ended := ih greedy innerFirst
    exact ended
  | _ => exact greedy.elim

theorem EndsGreedily.exists_fit {pattern : Pattern} (greedy : pattern.EndsGreedily accepts)
    {before rest : Text} {found : Match}
    (matched : pattern.matchAt (width before) rest = some found) :
    ∃ covered after captures, rest = covered ++ after ∧
      pattern.Fits before covered after captures ∧
      found = ⟨width before, width (before ++ covered), captures⟩ ∧
      ∀ c ∈ after.head?, accepts c = false := by
  rw [matchAt, run_eq_findSome?_ends, List.findSome?_eq_some_iff] at matched
  obtain ⟨passed, place, later, isEnds, here, noneBefore⟩ := matched
  obtain rfl : passed = [] := by
    cases passed with
    | nil => rfl
    | cons other passed => exact absurd (noneBefore other (by simp)) (by simp)
  have member : place ∈ pattern.ends ⟨width before, rest, []⟩ := by simp [isEnds]
  have first : (pattern.ends ⟨width before, rest, []⟩).head? = some place := by
    rw [isEnds]
    rfl
  have ended := greedy.head?_ends first
  obtain ⟨covered, after, captures, split, fits, rfl⟩ := (mem_ends_iff _ _ _ _ _).mp member
  refine ⟨covered, after, captures, split, fits, ?_, ended⟩
  simpa using (Option.some.inj here).symm

theorem boxTitle_endsGreedily : boxTitle.EndsGreedily (isNot '\n') := rfl

end Greedy

end Pattern

theorem Rule.boxTitle_atLine (page : Page) {lineIndex : Nat} {line : Text}
    (present : page.lines[lineIndex]? = some line) :
    (boxTitle.check page).filter (·.range.start.line == lineIndex + 1) =
      (boxTitle.findings { page with lines := [line] }).map fun finding =>
        boxTitle.diagnose page.path (finding.shift lineIndex) :=
  check_atLine (by simp [Registry.builtinRules]) rfl (by decide) page present

structure BoxHeading (line : Text) where
  quote : Text
  opening : Text
  icon : Text
  between : Text
  title : Text
  parts : line = quote ++ (['#'] ++ opening ++ icon ++ between ++ title)
  quoted : ∀ c ∈ quote, Pattern.inQuoteMarkers c = true

namespace BoxHeading

variable {line : Text} (heading : BoxHeading line)

def found : Match :=
  ⟨0, width line, [
    ⟨1, width heading.quote, width line⟩,
    ⟨3, width (heading.quote ++ (['#'] ++ heading.opening ++ heading.icon ++ heading.between)),
      width line⟩,
    ⟨2, width (heading.quote ++ (['#'] ++ heading.opening)),
      width (heading.quote ++ (['#'] ++ heading.opening) ++ heading.icon)⟩]⟩

theorem exists_of_matchAt (noFeed : '\n' ∉ line) {found : Match}
    (matched : Pattern.boxTitle.matchAt 0 line = some found) :
    ∃ heading : BoxHeading line, found = heading.found := by
  rw [← width_nil] at matched
  obtain ⟨covered, after, captures, parts, fits, rfl, ended⟩ :=
    Pattern.boxTitle_endsGreedily.exists_fit matched
  obtain rfl : after = [] := by
    cases after with
    | nil => rfl
    | cons c after =>
      have feed : c = '\n' := by simpa [Pattern.isNot] using ended c rfl
      simp [parts, feed] at noFeed
  rw [List.append_nil] at parts
  obtain ⟨quote, opening, icon, between, title, -, rfl, quoted, rfl⟩ := Pattern.boxTitle_parts fits
  refine ⟨⟨quote, opening, icon, between, title, parts, quoted⟩, ?_⟩
  simp [found, parts]

variable (lineIndex : Nat)

theorem groupSpan?_one : Occurrence.groupSpan? ⟨lineIndex, line, heading.found⟩ 1 =
    some ⟨lineIndex, line, width heading.quote, width line⟩ := rfl

theorem group_two : Occurrence.group ⟨lineIndex, line, heading.found⟩ 2 = heading.icon := by
  have parts := heading.parts
  exact Occurrence.group_eq (heading.quote ++ (['#'] ++ heading.opening)) heading.icon
    (heading.between ++ heading.title) rfl (parts.trans (by simp))

theorem group_three : Occurrence.group ⟨lineIndex, line, heading.found⟩ 3 = heading.title := by
  have parts : line = heading.quote ++ (['#'] ++ heading.opening ++ heading.icon ++ heading.between) ++
      heading.title ++ [] := heading.parts.trans (by simp)
  have atEnd : width line = width (heading.quote ++
      (['#'] ++ heading.opening ++ heading.icon ++ heading.between) ++ heading.title) := by
    rw [List.append_nil] at parts
    exact congrArg width parts
  exact Occurrence.group_eq _ heading.title [] (by rw [← atEnd]; rfl) parts

theorem exists_finding (page : Page)
    (matched : Pattern.boxTitle.matchAt 0 line = some heading.found) :
    ∃ finding : Finding, Rule.boxTitle.findings { page with lines := [line] } = [finding] ∧
      finding.span = ⟨0, line, width heading.quote, width line⟩ ∧
      finding.replacement = some (Rule.boxTitleTag heading.icon heading.title) := by
  have first : Pattern.boxTitle.firstOccurrences [line] = [⟨0, line, heading.found⟩] := by
    rw [Pattern.firstOccurrences_singleton, Pattern.anchored_boxTitle.matchesOf_eq, matched]
    rfl
  have findings : Rule.boxTitle.findings { page with lines := [line] } =
      (Pattern.boxTitle.firstOccurrences [line]).filterMap _ := rfl
  simp only [first, List.filterMap_cons, List.filterMap_nil, heading.group_two, heading.group_three,
    Occurrence.replaceGroup?, heading.groupSpan?_one, Option.map_some] at findings
  exact ⟨_, findings, rfl, rfl⟩

end BoxHeading

section Silent

theorem Pattern.boxTitle_silent {quote : Text} {c : Char}
    (quoted : ∀ c ∈ quote, inQuoteMarkers c = true) (other : inQuoteMarkers c = false)
    (noHash : c ≠ '#') (rest : Text) : boxTitle.firstOccurrences [quote ++ c :: rest] = [] := by
  have unmatched : boxTitle.matchAt 0 (quote ++ c :: rest) = none := by
    rw [← width_nil, matchAt_eq_none_iff]
    intro covered after captures split fits
    obtain ⟨markers, opening, icon, between, title, -, rfl, areMarkers, -⟩ := boxTitle_parts fits
    have same : markers ++ '#' :: (opening ++ icon ++ between ++ title ++ after) =
        quote ++ c :: rest := by simp [split]
    have hash : inQuoteMarkers '#' = false := by decide
    obtain ⟨-, begins⟩ :=
      cut_behind_run areMarkers quoted (by simpa using hash) (by simpa using other) same
    exact noHash (List.cons.inj begins).1.symm
  rw [firstOccurrences_singleton, anchored_boxTitle.matchesOf_eq, unmatched]
  rfl

theorem Rule.boxTitle_silent {quote rest : Text} {c : Char}
    (quoted : ∀ c ∈ quote, Pattern.inQuoteMarkers c = true)
    (other : Pattern.inQuoteMarkers c = false) (noHash : c ≠ '#') (page : Page) {lineIndex : Nat}
    (present : page.lines[lineIndex]? = some (quote ++ c :: rest)) :
    (boxTitle.check page).filter (·.range.start.line == lineIndex + 1) = [] := by
  have none := Pattern.boxTitle_silent quoted other noHash rest
  have findings : boxTitle.findings { page with lines := [quote ++ c :: rest] } =
      (Pattern.boxTitle.firstOccurrences [quote ++ c :: rest]).filterMap _ := rfl
  rw [boxTitle_atLine page present, findings, none]
  rfl

theorem Rule.boxTitle_silent_on_tag {quote icon title : Text}
    (quoted : ∀ c ∈ quote, Pattern.inQuoteMarkers c = true) (page : Page) {lineIndex : Nat}
    (present : page.lines[lineIndex]? = some (quote ++ boxTitleTag icon title)) :
    (boxTitle.check page).filter (·.range.start.line == lineIndex + 1) = [] := by
  simp only [boxTitleTag_eq, List.append_assoc, List.singleton_append] at present
  exact boxTitle_silent quoted (by decide) (by decide) page present

end Silent

section Tags

variable {quote icon title : Text}

theorem Rule.getLast?_boxTitleTag (front : Text) :
    (front ++ boxTitleTag icon title).getLast? = some '>' := by
  rw [boxTitleTag_eq, ← List.append_assoc, List.getLast?_concat]

theorem Line.proper_boxTitleTag (noQuote : '\n' ∉ quote) (noIcon : '\n' ∉ icon)
    (noTitle : '\n' ∉ title) (ending : Ending) :
    Line.Proper ⟨quote ++ Rule.boxTitleTag icon title, ending⟩ where
  no_feed := by
    rw [List.mem_append, not_or]
    exact ⟨noQuote, Rule.no_feed_boxTitleTag noIcon noTitle⟩
  no_return _ := by
    rw [Rule.getLast?_boxTitleTag]
    decide
  not_empty _ := by simp [Rule.boxTitleTag_eq]

end Tags

namespace Text

theorem utf8Size_toLower (c : Char) : c.toLower.utf8Size = c.utf8Size := by
  have small : ∀ n < 0x80, (Char.ofNat n).toLower.utf8Size = (Char.ofNat n).utf8Size := by
    decide +kernel
  by_cases upper : c.val ≥ 'A'.val ∧ c.val ≤ 'Z'.val
  · have last : c.toNat ≤ 90 := UInt32.le_iff_toNat_le.mp upper.2
    simpa using small c.toNat (by omega)
  · delta Char.toLower
    rw [dif_neg upper]

theorem width_asciiLower (text : Text) : width (asciiLower text) = width text := by
  induction text with
  | nil => rfl
  | cons c rest ih =>
    change c.toLower.utf8Size + width (asciiLower rest) = _
    rw [ih, utf8Size_toLower, width_cons]

theorem splitAtByte?_of_sameIgnoringAsciiCase {head text : Text}
    (same : sameIgnoringAsciiCase head text = true) (tail : Text) :
    splitAtByte? (head ++ tail) (width text) = some (head, tail) := by
  have sameWidth : width head = width text := by
    rw [← width_asciiLower head, eq_of_beq same, width_asciiLower]
  rw [← sameWidth]
  exact splitAtByte?_append head tail

end Text

inductive TitleLeft (label title : Text) : Text → Prop where
  | unlabelled {head tail : Text} (parts : trim title = head ++ ':' :: tail)
      (own : sameIgnoringAsciiCase head label = true) :
      TitleLeft label title (trimStart tail)
  | whole (other : ∀ head tail, trim title = head ++ ':' :: tail →
        sameIgnoringAsciiCase head label = false) :
      TitleLeft label title (trim title)

theorem Rule.titleLeft_boxTitleText (icon title : Text) :
    TitleLeft (boxLabel icon) title (boxTitleText icon title) := by
  by_cases labelled : ∃ head tail, trim title = head ++ ':' :: tail ∧
      sameIgnoringAsciiCase head (boxLabel icon) = true
  · obtain ⟨head, tail, parts, own⟩ := labelled
    have cut := splitAtByte?_of_sameIgnoringAsciiCase own (':' :: tail)
    rw [← parts] at cut
    have left : boxTitleText icon title = trimStart tail := by
      simp only [boxTitleText, cut, own, if_true]
    rw [left]
    exact .unlabelled parts own
  · have other : ∀ head tail, trim title = head ++ ':' :: tail →
        sameIgnoringAsciiCase head (boxLabel icon) = false := by
      intro head tail parts
      by_contra own
      exact labelled ⟨head, tail, parts, by simpa using own⟩
    have left : boxTitleText icon title = trim title := by
      simp only [boxTitleText]
      split
      · next head tail cut =>
        have parts := ((splitAtByte?_eq_some_iff _ _ _ _).mp cut).1
        rw [other head tail parts]
        rfl
      · rfl
    rw [left]
    exact .whole other

section Tagged

variable {source : Text}

theorem BoxHeading.proper_tagged {line : Line} (heading : BoxHeading line.text)
    (proper : line.Proper) :
    Line.Proper ⟨heading.quote ++ Rule.boxTitleTag heading.icon heading.title, line.ending⟩ := by
  have noFeed := proper.no_feed
  simp only [heading.parts, List.mem_append, not_or] at noFeed
  obtain ⟨noQuote, ⟨⟨-, noIcon⟩, -⟩, noTitle⟩ := noFeed
  exact Line.proper_boxTitleTag noQuote noIcon noTitle _

theorem BoxHeading.lands {lineIndex : Nat} {line : Line} (heading : BoxHeading line.text)
    (present : (linesOf source)[lineIndex]? = some line) (path : Text) {finding : Finding}
    (span : finding.span = ⟨0, line.text, width heading.quote, width line.text⟩)
    (replaced : finding.replacement = some (Rule.boxTitleTag heading.icon heading.title)) :
    let diagnostic := Rule.boxTitle.diagnose path (finding.shift lineIndex)
    diagnostic.range = ⟨⟨lineIndex + 1, width heading.quote + 1⟩, ⟨lineIndex + 2, 1⟩⟩ ∧
      repair source [diagnostic] = some
        (⟨((linesOf source).set lineIndex
          ⟨heading.quote ++ Rule.boxTitleTag heading.icon heading.title, line.ending⟩).flatMap
            Line.source, 1, 0⟩, 0) := by
  intro diagnostic
  have parts : line.text =
      heading.quote ++ (['#'] ++ heading.opening ++ heading.icon ++ heading.between ++ heading.title) ++
        [] := heading.parts.trans (List.append_nil _).symm
  obtain ⟨piece, rfl, rfl, isHead, isCovered, isTail⟩ := exists_piece _ _ _ present parts
  have samePlace : (finding.shift piece.before.length).span = piece.span := by
    rw [Finding.shift, span, Piece.span, isHead, isCovered, ← heading.parts, Span.shift, Nat.zero_add]
  have rewrites : Rewrites piece.head piece.covered piece.tail
      (Rule.boxTitleTag heading.icon heading.title) := by
    rw [isHead, isCovered, isTail]
    exact .boxTitle heading.quote heading.opening heading.icon heading.between heading.title []
      heading.quoted
  have repairs : diagnostic.Repairs piece (Rule.boxTitleTag heading.icon heading.title) :=
    ⟨Rule.boxTitle.diagnose_asks path samePlace replaced, rewrites⟩
  constructor
  · simp only [diagnostic]
    rw [Rule.diagnose_eq, samePlace, ← isHead]
    exact congrArg (Range.mk _) (piece.span_range_stop_of_reaches isTail)
  · rw [repairs.lands, isHead, isTail, List.append_nil]

theorem box_title_becomes_tag (page : Page) (pageLines : page.lines = splitLines source)
    {lineIndex : Nat} {line : Line} (present : (linesOf source)[lineIndex]? = some line)
    {occurrence : Occurrence}
    (found : occurrence ∈ Pattern.boxTitle.occurrences lineIndex line.text) :
    let icon := occurrence.group 2
    let title := occurrence.group 3
    let label : Text := (lower icon).map fun c => if c = '_' then '-' else c
    let tag : Text := label ++ "-title"
    ∃ (quote opening between left : Text) (diagnostic : Diagnostic),
      line.text = quote ++ '#' :: (opening ++ icon ++ between ++ title) ∧
      (∀ c ∈ quote, c = '>' ∨ isBlankChar c = true) ∧
      (Rule.boxTitle.check page).filter (·.range.start.line == lineIndex + 1) = [diagnostic] ∧
      diagnostic.range = ⟨⟨lineIndex + 1, width quote + 1⟩, ⟨lineIndex + 2, 1⟩⟩ ∧
      TitleLeft label title left ∧
      (∀ head tail, trim title = head ++ tail → sameIgnoringAsciiCase head label = true →
        splitAtByte? (trim title) (width label) = some (head, tail)) ∧
      let tagged : Text := quote ++ ("<" ++ tag ++ ">" ++ left ++ "</" ++ tag ++ ">")
      let repaired := ((linesOf source).set lineIndex ⟨tagged, line.ending⟩).flatMap Line.source
      repair source [diagnostic] = some (⟨repaired, 1, 0⟩, 0) ∧
      linesOf repaired = (linesOf source).set lineIndex ⟨tagged, line.ending⟩ ∧
      ∀ page' : Page, page'.lines = splitLines repaired →
        (Rule.boxTitle.check page').filter (·.range.start.line == lineIndex + 1) = [] := by
  intro icon title label tag
  obtain ⟨found, isMatch, rfl⟩ := List.mem_map.mp found
  rw [Pattern.anchored_boxTitle.matchesOf_eq, Option.mem_toList] at isMatch
  have proper := proper_of_mem_linesOf source line (List.mem_of_getElem? present)
  obtain ⟨heading, rfl⟩ := BoxHeading.exists_of_matchAt proper.no_feed isMatch
  have isIcon : icon = heading.icon := heading.group_two lineIndex
  have isTitle : title = heading.title := heading.group_three lineIndex
  have onPage : page.lines[lineIndex]? = some line.text := by
    rw [pageLines, splitLines, List.getElem?_map, present]
    rfl
  obtain ⟨finding, findings, span, replaced⟩ := heading.exists_finding page isMatch
  have reported := Rule.boxTitle_atLine page onPage
  rw [findings, List.map_singleton] at reported
  obtain ⟨range, landed⟩ := heading.lands present page.path span replaced
  have properTag := heading.proper_tagged proper
  rw [← isIcon, ← isTitle] at landed properTag
  have onTagged := getElem?_splitLines_set present properTag
  refine ⟨heading.quote, heading.opening, heading.between, Rule.boxTitleText icon title, _, ?_, ?_,
    reported, range, Rule.titleLeft_boxTitleText icon title, ?_, landed,
    linesOf_set present properTag, ?_⟩
  · rw [isIcon, isTitle]
    exact heading.parts
  · intro c member
    simpa [Pattern.inQuoteMarkers] using heading.quoted c member
  · intro head tail begins same
    rw [begins]
    exact splitAtByte?_of_sameIgnoringAsciiCase same tail
  · intro page' pageLines'
    apply Rule.boxTitle_silent_on_tag heading.quoted page'
    rw [pageLines']
    exact onTagged

end Tagged

def nestedHeadingText : Text :=
  "> > ### \x7b% icon hands_on %\x7d Hands-On: Tip: é \r\n> > body"

def nestedHeadingPage : Page := ⟨"tutorial.md", splitLines nestedHeadingText, [], fun _ => false⟩

def nestedHeading : Occurrence :=
  ⟨0, "> > ### \x7b% icon hands_on %\x7d Hands-On: Tip: é ",
    ⟨0, 46, [⟨1, 4, 46⟩, ⟨3, 28, 46⟩, ⟨2, 16, 24⟩]⟩⟩

theorem box_title_becomes_tag_nested :
    (linesOf nestedHeadingText)[0]? = some ⟨nestedHeading.line, .carriageReturnLineFeed⟩ ∧
    nestedHeading ∈ Pattern.boxTitle.occurrences 0 nestedHeading.line ∧
    nestedHeading.group 2 = "hands_on" ∧ nestedHeading.group 3 = "Hands-On: Tip: é " ∧
    ∃ (left : Text) (diagnostic : Diagnostic),
      (Rule.boxTitle.check nestedHeadingPage).filter (·.range.start.line == 1) = [diagnostic] ∧
      TitleLeft "hands-on" "Hands-On: Tip: é " left ∧
      repair nestedHeadingText [diagnostic] =
        some (⟨"> > <hands-on-title>Tip: é</hands-on-title>\r\n> > body".toList, 1, 0⟩, 0) := by
  have line : (linesOf nestedHeadingText)[0]? =
      some ⟨nestedHeading.line, .carriageReturnLineFeed⟩ := by decide
  have found : nestedHeading ∈ Pattern.boxTitle.occurrences 0 nestedHeading.line := by
    decide +kernel
  have icon : nestedHeading.group 2 = "hands_on" := by decide +kernel
  have title : nestedHeading.group 3 = "Hands-On: Tip: é " := by decide +kernel
  have label : ((lower "hands_on").map fun c => if c = '_' then '-' else c) = "hands-on" := by
    decide +kernel
  obtain ⟨_, _, _, left, diagnostic, -, -, reported, -, isLeft, -⟩ :=
    box_title_becomes_tag nestedHeadingPage rfl line found
  rw [icon, title, label] at isLeft
  have repaired : repair nestedHeadingText
      ((Rule.boxTitle.check nestedHeadingPage).filter (·.range.start.line == 1)) =
        some (⟨"> > <hands-on-title>Tip: é</hands-on-title>\r\n> > body".toList, 1, 0⟩, 0) := by
    decide +kernel
  rw [reported] at repaired
  exact ⟨line, found, icon, title, left, diagnostic, reported, isLeft, repaired⟩

end CourseLint
