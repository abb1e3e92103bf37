import Mathlib.Data.Prod.Lex
import CourseLint.Proofs.Lines
import CourseLint.Proofs.Rewriting

set_option autoImplicit false

namespace CourseLint

open Text

structure Meter (σ : Type) where
  start : σ
  step : σ → Char → σ
  cost : σ → Char → Nat
  final : σ → Nat

namespace Meter

variable {σ : Type} (meter : Meter σ)

def after (state : σ) (text : Text) : σ := text.foldl meter.step state

def spent : σ → Text → Nat
  | _, [] => 0
  | state, c :: rest => meter.cost state c + spent (meter.step state c) rest

def reading (state : σ) (text : Text) : Nat :=
  meter.spent state text + meter.final (meter.after state text)

def total (text : Text) : Nat := meter.reading meter.start text

@[simp] theorem after_nil (state : σ) : meter.after state [] = state := rfl

@[simp] theorem after_cons (state : σ) (c : Char) (rest : Text) :
    meter.after state (c :: rest) = meter.after (meter.step state c) rest := rfl

@[simp] theorem after_append (state : σ) (text rest : Text) :
    meter.after state (text ++ rest) = meter.after (meter.after state text) rest :=
  List.foldl_append

@[simp] theorem spent_append (state : σ) (text rest : Text) :
    meter.spent state (text ++ rest) =
      meter.spent state text + meter.spent (meter.after state text) rest := by
  induction text generalizing state with
  | nil => simp [spent]
  | cons c text ih => simp [spent, ih, Nat.add_assoc]

theorem reading_nil (state : σ) : meter.reading state [] = meter.final state := by
  simp [reading, spent]

theorem reading_cons (state : σ) (c : Char) (rest : Text) :
    meter.reading state (c :: rest) = meter.cost state c + meter.reading (meter.step state c) rest := by
  simp [reading, spent, Nat.add_assoc]

theorem reading_append (state : σ) (text rest : Text) :
    meter.reading state (text ++ rest) =
      meter.spent state text + meter.reading (meter.after state text) rest := by
  simp [reading, Nat.add_assoc]

theorem total_append_lt (front : Text) {text other : Text}
    (less : meter.reading (meter.after meter.start front) text <
      meter.reading (meter.after meter.start front) other) :
    meter.total (front ++ text) < meter.total (front ++ other) := by
  rw [total, total, reading_append, reading_append]
  omega

theorem total_append_eq (front : Text) {text other : Text}
    (same : meter.reading (meter.after meter.start front) text =
      meter.reading (meter.after meter.start front) other) :
    meter.total (front ++ text) = meter.total (front ++ other) := by
  rw [total, total, reading_append, reading_append, same]

end Meter

def headings : Meter Bool where
  start := true
  step opening c := c == '\n' || (opening && Pattern.inQuoteMarkers c)
  cost opening c := if opening && c == '#' then 1 else 0
  final _ := 0

def vagueLinks : Meter (Option Char) where
  start := none
  step _ c := some c
  cost last c := if last = some '[' ∧ opensVagueLink c = true then 1 else 0
  final _ := 0

def lacking (left right : Option Char) : Nat :=
  (if left = some '{' ∧ right ≠ some '%' then 2 else 0) +
  (if right = some '}' ∧ left ≠ some '%' then 2 else 0) +
  (if right = some '%' ∧ left ≠ some '{' then 1 else 0) +
  (if left = some '%' ∧ right ≠ some '}' then 1 else 0)

def delimiters : Meter (Option Char) where
  start := none
  step _ c := some c
  cost last c := lacking last (some c)
  final last := lacking last none

def potential (text : Text) : ℕ ×ₗ ℕ ×ₗ ℕ ×ₗ ℕ :=
  toLex (headings.total text,
    toLex (text.count ':', toLex (vagueLinks.total text, delimiters.total text)))

section Order

variable {text result : Text}

theorem potential_lt_of_headings (fewer : headings.total result < headings.total text) :
    potential result < potential text :=
  Prod.Lex.toLex_lt_toLex.mpr (.inl fewer)

theorem potential_lt_of_colons (sameHeadings : headings.total result = headings.total text)
    (fewer : result.count ':' < text.count ':') : potential result < potential text := by
  refine Prod.Lex.toLex_lt_toLex.mpr (.inr ⟨sameHeadings, ?_⟩)
  exact Prod.Lex.toLex_lt_toLex.mpr (.inl fewer)

theorem potential_lt_of_vagueLinks (sameHeadings : headings.total result = headings.total text)
    (colons : result.count ':' ≤ text.count ':')
    (fewer : vagueLinks.total result < vagueLinks.total text) :
    potential result < potential text := by
  refine Prod.Lex.toLex_lt_toLex.mpr (.inr ⟨sameHeadings, ?_⟩)
  refine Prod.Lex.toLex_lt_toLex'.mpr ⟨colons, fun _ => ?_⟩
  exact Prod.Lex.toLex_lt_toLex.mpr (.inl fewer)

theorem potential_lt_of_delimiters (sameHeadings : headings.total result = headings.total text)
    (colons : result.count ':' ≤ text.count ':')
    (links : vagueLinks.total result = vagueLinks.total text)
    (fewer : delimiters.total result < delimiters.total text) :
    potential result < potential text := by
  refine Prod.Lex.toLex_lt_toLex.mpr (.inr ⟨sameHeadings, ?_⟩)
  refine Prod.Lex.toLex_lt_toLex'.mpr ⟨colons, fun _ => ?_⟩
  exact Prod.Lex.toLex_lt_toLex.mpr (.inr ⟨links, fewer⟩)

end Order

section Headings

theorem headings_within_line (text : Text) (noFeed : '\n' ∉ text) :
    headings.spent false text = 0 ∧ headings.after false text = false := by
  induction text with
  | nil => exact ⟨rfl, rfl⟩
  | cons c text ih =>
    simp only [List.mem_cons, not_or] at noFeed
    have stays : headings.step false c = false := by simp [headings, Ne.symm noFeed.1]
    have free : headings.cost false c = 0 := by simp [headings]
    simp [Meter.spent, stays, free, ih noFeed.2]

theorem not_feed_of_not_marker {c : Char} (notMarker : Pattern.inQuoteMarkers c = false) :
    c ≠ '\n' := by
  rintro rfl
  exact absurd notMarker (by decide)

theorem headings_after_opener {c : Char} (notMarker : Pattern.inQuoteMarkers c = false)
    (notMark : c ≠ '#') (opening : Bool) (text : Text) (noFeed : '\n' ∉ text) :
    headings.spent opening (c :: text) = 0 ∧ headings.after opening (c :: text) = false := by
  have closes : headings.step opening c = false := by
    simp [headings, notMarker, not_feed_of_not_marker notMarker]
  have free : headings.cost opening c = 0 := by simp [headings, notMark]
  simpa [Meter.spent, closes, free] using headings_within_line text noFeed

theorem headings_after_snoc {c : Char} (notMarker : Pattern.inQuoteMarkers c = false)
    (opening : Bool) (text : Text) : headings.after opening (text ++ [c]) = false := by
  simp [headings, notMarker, not_feed_of_not_marker notMarker]

theorem headings_after_lines (lines : List Line) (closed : ∀ line ∈ lines, line.Closed) :
    headings.after true (lines.flatMap Line.source) = true := by
  induction lines with
  | nil => rfl
  | cons line lines ih =>
    have lineOver : headings.after true line.source = true := by
      cases ending : line.ending with
      | absent => exact absurd ending (closed line (by simp))
      | lineFeed => simp [Line.source, ending, Ending.text, headings]
      | carriageReturnLineFeed => simp [Line.source, ending, Ending.text, headings]
    rw [List.flatMap_cons, Meter.after_append, lineOver]
    exact ih fun other member => closed other (by simp [member])

theorem headings_after_markers (text : Text)
    (markers : ∀ c ∈ text, Pattern.inQuoteMarkers c = true) :
    headings.after true text = true := by
  induction text with
  | nil => rfl
  | cons c text ih =>
    have stays : headings.step true c = true := by simp [headings, markers c (by simp)]
    rw [Meter.after_cons, stays]
    exact ih fun d member => markers d (by simp [member])

end Headings

section Insertion

def isDelimiter (c : Char) : Bool := c == '{' || c == '%' || c == '}'

theorem isDelimiter_cases {c : Char} (delimiter : isDelimiter c = true) :
    c = '{' ∨ c = '%' ∨ c = '}' := by
  simpa [isDelimiter, or_assoc] using delimiter

theorem not_marker_of_isDelimiter {c : Char} (delimiter : isDelimiter c = true) :
    Pattern.inQuoteMarkers c = false := by
  rcases isDelimiter_cases delimiter with rfl | rfl | rfl <;> decide

theorem not_vague_of_isDelimiter {c : Char} (delimiter : isDelimiter c = true) :
    opensVagueLink c = false := by
  rcases isDelimiter_cases delimiter with rfl | rfl | rfl <;> decide

theorem ne_of_isDelimiter {c d : Char} (delimiter : isDelimiter c = true)
    (other : isDelimiter d = false) : c ≠ d := by
  rintro rfl
  exact absurd delimiter (by simp [other])

def besideDelimiter (front rest : Text) : Prop :=
  (∃ c, front.getLast? = some c ∧ isDelimiter c = true) ∨
    ∃ c, rest.head? = some c ∧ isDelimiter c = true

theorem headings_insert {front rest : Text} {d : Char} (delimiter : isDelimiter d = true)
    (beside : besideDelimiter front rest) :
    headings.total (front ++ d :: rest) = headings.total (front ++ rest) := by
  have notMarker := not_marker_of_isDelimiter delimiter
  have notMark : d ≠ '#' := ne_of_isDelimiter delimiter (by decide)
  refine headings.total_append_eq front ?_
  generalize state : headings.after headings.start front = opening
  have closes : headings.step opening d = false := by
    simp [headings, notMarker, not_feed_of_not_marker notMarker]
  have free : headings.cost opening d = 0 := by simp [headings, notMark]
  rw [Meter.reading_cons, closes, free, Nat.zero_add]
  -- Next to another delimiter no heading can be open, with or without the inserted one.
  rcases beside with ⟨c, last, isBeside⟩ | ⟨c, first, isBeside⟩
  · obtain ⟨before, rfl⟩ := List.getLast?_eq_some_iff.mp last
    rw [headings_after_snoc (not_marker_of_isDelimiter isBeside)] at state
    rw [state]
  · obtain ⟨more, rfl⟩ := List.head?_eq_some_iff.mp first
    have noMarker := not_marker_of_isDelimiter isBeside
    have noMark : c ≠ '#' := ne_of_isDelimiter isBeside (by decide)
    simp [Meter.reading_cons, headings, noMarker, noMark]

theorem vagueLinks_after (front : Text) : vagueLinks.after vagueLinks.start front = front.getLast? := by
  rcases List.eq_nil_or_concat front with rfl | ⟨before, c, rfl⟩
  · rfl
  · simp [vagueLinks]

theorem delimiters_after (front : Text) : delimiters.after delimiters.start front = front.getLast? := by
  rcases List.eq_nil_or_concat front with rfl | ⟨before, c, rfl⟩
  · rfl
  · simp [delimiters]

theorem vagueLinks_insert {front rest : Text} {d : Char} (delimiter : isDelimiter d = true)
    (beside : besideDelimiter front rest) :
    vagueLinks.total (front ++ d :: rest) = vagueLinks.total (front ++ rest) := by
  have notVague := not_vague_of_isDelimiter delimiter
  have notBracket : d ≠ '[' := ne_of_isDelimiter delimiter (by decide)
  refine vagueLinks.total_append_eq front ?_
  rw [vagueLinks_after]
  cases rest with
  | nil => simp [Meter.reading_cons, Meter.reading_nil, vagueLinks, notVague]
  | cons c more =>
    have free : ¬ (front.getLast? = some '[' ∧ opensVagueLink c = true) := by
      rintro ⟨bracket, vague⟩
      rcases beside with ⟨e, last, isBeside⟩ | ⟨e, first, isBeside⟩
      · obtain rfl := Option.some.inj (last.symm.trans bracket)
        exact absurd isBeside (by decide)
      · obtain rfl := Option.some.inj first
        exact absurd vague (by simp [not_vague_of_isDelimiter isBeside])
    simp [Meter.reading_cons, vagueLinks, notVague, notBracket, free]

theorem delimiters_insert {front rest : Text} {d : Char}
    (pair : lacking front.getLast? (some d) + lacking (some d) rest.head? <
      lacking front.getLast? rest.head?) :
    delimiters.total (front ++ d :: rest) < delimiters.total (front ++ rest) := by
  refine delimiters.total_append_lt front ?_
  rw [delimiters_after, Meter.reading_cons]
  cases rest with
  | nil => simpa [Meter.reading_nil, delimiters] using pair
  | cons c more =>
    simp only [Meter.reading_cons, delimiters, List.head?_cons] at pair ⊢
    omega

theorem potential_insert {front rest : Text} {d : Char} (delimiter : isDelimiter d = true)
    (beside : besideDelimiter front rest)
    (pair : lacking front.getLast? (some d) + lacking (some d) rest.head? <
      lacking front.getLast? rest.head?) :
    potential (front ++ d :: rest) < potential (front ++ rest) := by
  have notColon : d ≠ ':' := ne_of_isDelimiter delimiter (by decide)
  refine potential_lt_of_delimiters (headings_insert delimiter beside) ?_
    (vagueLinks_insert delimiter beside) (delimiters_insert pair)
  simp [notColon]

theorem potential_openBrace {front : Text} (rest : Text) (unopened : front.getLast? ≠ some '{') :
    potential (front ++ '{' :: '%' :: rest) < potential (front ++ '%' :: rest) := by
  refine potential_insert (by decide) (.inr ⟨'%', rfl, by decide⟩) ?_
  simp [lacking, unopened]

theorem potential_openPercent (front rest : Text) (notPercent : rest.head? ≠ some '%') :
    potential (front ++ ['{'] ++ '%' :: rest) < potential (front ++ ['{'] ++ rest) := by
  refine potential_insert (by decide) (.inl ⟨'{', by simp, by decide⟩) ?_
  have paired : lacking (some '{') (some '%') = 0 := by decide
  rw [List.getLast?_append, List.getLast?_singleton, Option.some_or, paired]
  by_cases brace : rest.head? = some '}'
  · rw [brace]
    decide
  · simp [lacking, notPercent, brace]

theorem potential_closeBrace (front rest : Text) (notBrace : rest.head? ≠ some '}') :
    potential (front ++ ['%'] ++ '}' :: rest) < potential (front ++ ['%'] ++ rest) := by
  refine potential_insert (by decide) (.inl ⟨'%', by simp, by decide⟩) ?_
  simp [lacking, notBrace]

theorem potential_closePercent {front : Text} (rest : Text)
    (notPercent : front.getLast? ≠ some '%') :
    potential (front ++ '%' :: '}' :: rest) < potential (front ++ '}' :: rest) := by
  refine potential_insert (by decide) (.inr ⟨'}', rfl, by decide⟩) ?_
  have paired : lacking (some '%') (some '}') = 0 := by decide
  rw [List.head?_cons, paired]
  by_cases brace : front.getLast? = some '{'
  · rw [brace]
    decide
  · simp [lacking, notPercent, brace]

end Insertion

section Replacement

theorem headings_replace {front covered replacement : Text} (behind : Text)
    (none : headings.spent (headings.after true front) covered = 0 ∧
      headings.after (headings.after true front) covered = false)
    (none' : headings.spent (headings.after true front) replacement = 0 ∧
      headings.after (headings.after true front) replacement = false) :
    headings.total (front ++ (replacement ++ behind)) =
      headings.total (front ++ (covered ++ behind)) := by
  refine headings.total_append_eq front ?_
  change headings.reading (headings.after true front) _ =
    headings.reading (headings.after true front) _
  rw [Meter.reading_append, Meter.reading_append, none.1, none.2, none'.1, none'.2]

theorem count_internalLink (page : Text) :
    (Rule.internalLink page).count ':' = page.count ':' := by
  simp [Rule.internalLink_eq]

theorem count_toolCall (name id : Text) :
    (toolCall name id).count ':' = name.count ':' + (Rule.decodeSlashes id).count ':' := by
  simp [toolCall_eq]

theorem count_decodeSlashes_le (text : Text) :
    (Rule.decodeSlashes text).count ':' ≤ text.count ':' := by
  fun_induction Rule.decodeSlashes text with
  | case1 rest ih => simpa using ih
  | case2 rest ih => simpa using ih
  | case3 d rest _ _ ih =>
    rw [List.count_cons, List.count_cons]
    omega
  | case4 => simp

theorem potential_externalLink {front site page suffix extension : Text} (behind : Text)
    (colon : ':' ∈ site) (plain : extension = [] ∨ extension = ['.', 'm', 'd'])
    (noFeed : '\n' ∉ site ++ page ++ suffix)
    (noFeed' : '\n' ∉ Rule.internalLink (page ++ extension)) :
    potential (front ++ ['('] ++ (Rule.internalLink (page ++ extension) ++ behind)) <
      potential (front ++ ['('] ++ (site ++ page ++ suffix ++ behind)) := by
  have onLine : headings.after true (front ++ ['(']) = false :=
    headings_after_snoc (by decide) true front
  refine potential_lt_of_colons (headings_replace behind ?_ ?_) ?_
  · rw [onLine]
    exact headings_within_line _ noFeed
  · rw [onLine]
    exact headings_within_line _ noFeed'
  · have some : 0 < site.count ':' := List.count_pos_iff.mpr colon
    have noExtension : extension.count ':' = 0 := by rcases plain with rfl | rfl <;> decide
    simp only [count_internalLink, List.count_append, noExtension]
    omega

theorem potential_citation {front address : Text} (behind : Text) (colon : ':' ∈ address)
    (noFeed : '\n' ∉ address) :
    potential (front ++ (citationLink ++ behind)) <
      potential (front ++ (']' :: address ++ behind)) := by
  refine potential_lt_of_colons (headings_replace behind ?_ ?_) ?_
  · exact headings_after_opener (by decide) (by decide) _ address noFeed
  · exact headings_after_opener (by decide) (by decide) _ citationLink.tail (by decide)
  · have some : 0 < address.count ':' := List.count_pos_iff.mpr colon
    have none : citationLink.count ':' = 0 := by decide
    simp only [List.count_append, List.count_cons, none]
    omega

theorem potential_toolLink {front opening name address id closing : Text} (behind : Text)
    (colon : ':' ∈ address) (noFeed : '\n' ∉ opening ++ name ++ address ++ id ++ closing)
    (noFeed' : '\n' ∉ toolCall name id) :
    potential (front ++ (toolCall name id ++ behind)) <
      potential (front ++ ('{' :: opening ++ name ++ address ++ id ++ closing ++ behind)) := by
  refine potential_lt_of_colons (headings_replace behind ?_ ?_) ?_
  · exact headings_after_opener (by decide) (by decide) _ _ noFeed
  · rw [toolCall_eq] at noFeed' ⊢
    refine headings_after_opener (by decide) (by decide) _ _ ?_
    exact fun feed => noFeed' (List.mem_cons_of_mem _ feed)
  · have some : 0 < address.count ':' := List.count_pos_iff.mpr colon
    have decoded := count_decodeSlashes_le id
    simp only [count_toolCall, List.count_append, List.count_cons]
    omega

theorem potential_boxTitle {front opening icon between title : Text} (behind : Text)
    (atStart : headings.after true front = true)
    (noFeed : '\n' ∉ opening ++ icon ++ between ++ title)
    (noFeed' : '\n' ∉ Rule.boxTitleTag icon title) :
    potential (front ++ (Rule.boxTitleTag icon title ++ behind)) <
      potential (front ++ ('#' :: opening ++ icon ++ between ++ title ++ behind)) := by
  refine potential_lt_of_headings (headings.total_append_lt front ?_)
  change headings.reading (headings.after true front) _ <
    headings.reading (headings.after true front) _
  rw [atStart, Meter.reading_append, Meter.reading_append]
  have marked : headings.spent true ('#' :: (opening ++ icon ++ between ++ title)) = 1 ∧
      headings.after true ('#' :: (opening ++ icon ++ between ++ title)) = false := by
    have closes : headings.step true '#' = false := by decide
    have counts : headings.cost true '#' = 1 := by decide
    simpa [Meter.spent, closes, counts] using headings_within_line _ noFeed
  have unmarked : headings.spent true (Rule.boxTitleTag icon title) = 0 ∧
      headings.after true (Rule.boxTitleTag icon title) = false := by
    rw [Rule.boxTitleTag_eq] at noFeed' ⊢
    refine headings_after_opener (by decide) (by decide) _ _ ?_
    exact fun feed => noFeed' (List.mem_cons_of_mem _ feed)
  simp only [List.cons_append, List.append_assoc] at marked ⊢
  rw [unmarked.1, unmarked.2, marked.1, marked.2]
  omega

theorem potential_linkText {front rest : Text} {c : Char} (behind : Text)
    (vague : opensVagueLink c = true) (noFeed : '\n' ∉ c :: rest ++ [']']) :
    potential (front ++ (betterLinkText ++ behind)) <
      potential (front ++ ('[' :: c :: rest ++ [']'] ++ behind)) := by
  refine potential_lt_of_vagueLinks (headings_replace behind ?_ ?_) ?_
    (vagueLinks.total_append_lt front ?_)
  · exact headings_after_opener (by decide) (by decide) _ (c :: rest ++ [']']) noFeed
  · exact headings_after_opener (by decide) (by decide) _ betterLinkText.tail (by decide)
  · have none : betterLinkText.count ':' = 0 := by decide
    simp only [List.count_append, none]
    omega
  · generalize vagueLinks.after vagueLinks.start front = last
    have marked : 0 < vagueLinks.spent last ('[' :: c :: rest ++ [']']) := by
      have counts : vagueLinks.cost (some '[') c = 1 := if_pos ⟨rfl, vague⟩
      change 0 < vagueLinks.cost last '[' + (vagueLinks.cost (some '[') c + _)
      rw [counts]
      omega
    have unmarked : vagueLinks.spent last betterLinkText = 0 := by
      have notVague : vagueLinks.cost last '[' = 0 := if_neg fun both => absurd both.2 (by decide)
      have inner : vagueLinks.spent (some '[') betterLinkText.tail = 0 := by decide
      change vagueLinks.cost last '[' + vagueLinks.spent (some '[') betterLinkText.tail = 0
      rw [notVague, inner]
    have sameEnd : vagueLinks.after last ('[' :: c :: rest ++ [']']) =
        vagueLinks.after last betterLinkText := by
      rw [Meter.after_append]
      rfl
    rw [Meter.reading_append, Meter.reading_append, unmarked, sameEnd]
    omega

end Replacement

theorem Rewrites.potential_lt {head covered tail replacement : Text}
    (rewrites : Rewrites head covered tail replacement) (lines : List Line)
    (closed : ∀ line ∈ lines, line.Closed) (noFeed : '\n' ∉ covered) (behind : Text)
    (brace : covered = [] → behind.head? ≠ some '}') :
    potential (lines.flatMap Line.source ++ head ++ replacement ++ behind) <
      potential (lines.flatMap Line.source ++ head ++ covered ++ behind) := by
  have noFeed' := rewrites.no_feed noFeed
  rw [List.append_assoc _ replacement, List.append_assoc _ covered]
  cases rewrites with
  | openBrace head call tail unopened =>
    refine potential_openBrace (call ++ behind) ?_
    -- A call at the start of its line has a line feed before it, if anything.
    rw [List.getLast?_append]
    cases last : head.getLast? with
    | none => simpa using getLast?_flatMap_source_ne lines closed (by decide)
    | some c => simpa [last] using unopened
  | openPercent head c rest tail notPercent =>
    simpa using potential_openPercent (lines.flatMap Line.source ++ head) (c :: rest ++ behind)
      (by simpa using notPercent)
  | closeBrace head c tail notBrace =>
    simpa using potential_closeBrace (lines.flatMap Line.source ++ head) (c :: behind)
      (by simpa using notBrace)
  | closeBraceAtEnd head =>
    simpa using potential_closeBrace (lines.flatMap Line.source ++ head) behind (brace rfl)
  | closePercent head call c tail notPercent =>
    -- The call up to the brace belongs to what stands in front of the inserted sign.
    have last : (lines.flatMap Line.source ++ head ++ '{' :: call ++ [c]).getLast? ≠ some '%' := by
      rw [List.getLast?_append, List.getLast?_singleton, Option.some_or]
      simpa using notPercent
    simpa using potential_closePercent behind last
  | externalLink head site page suffix extension tail colon plain =>
    rw [← List.append_assoc (lines.flatMap Line.source)]
    exact potential_externalLink behind colon plain noFeed noFeed'
  | citation head address tail colon =>
    exact potential_citation behind colon fun feed => noFeed (List.mem_cons_of_mem _ feed)
  | linkText head c rest tail vague =>
    exact potential_linkText behind vague fun feed => noFeed (List.mem_cons_of_mem _ feed)
  | toolLink head opening name address id closing tail colon =>
    exact potential_toolLink behind colon (fun feed => noFeed (List.mem_cons_of_mem _ feed)) noFeed'
  | boxTitle head opening icon between title tail markers =>
    refine potential_boxTitle behind ?_ (fun feed => noFeed (List.mem_cons_of_mem _ feed)) noFeed'
    rw [Meter.after_append, headings_after_lines lines closed]
    exact headings_after_markers head markers

end CourseLint
