import Mathlib.Data.List.Forall2
import CourseLint.Proofs.Matching
import CourseLint.Proofs.Rewriting

set_option autoImplicit false

namespace CourseLint

open Text

def ReadsAs (word letters : Text) : Prop :=
  List.Forall₂ (fun letter c => Pattern.foldsTo letter c = true) word letters

namespace Pattern

def groupless : Pattern → Bool
  | .seq first second => first.groupless && second.groupless
  | .either first second => first.groupless && second.groupless
  | .group _ _ => false
  | _ => true

theorem captures_eq_nil {pattern : Pattern} (plain : pattern.groupless = true)
    {before covered after : Text} {captures : List Capture}
    (fits : pattern.Fits before covered after captures) : captures = [] := by
  induction pattern generalizing before covered after captures with
  | nothing => exact fits.2
  | lineStart => exact fits.2.2
  | lineEnd => exact fits.2.2
  | char accepts => exact fits.choose_spec.2.2
  | longest accepts => exact fits.2
  | most spare accepts => exact fits.2.2
  | shortest accepts => exact fits.2
  | seq first second ihFirst ihSecond =>
    obtain ⟨plainFirst, plainSecond⟩ := Bool.and_eq_true_iff.mp plain
    obtain ⟨_, _, _, _, rfl, rfl, fitsFirst, fitsSecond⟩ := fits
    rw [ihFirst plainFirst fitsFirst, ihSecond plainSecond fitsSecond, List.append_nil]
  | either first second ihFirst ihSecond =>
    obtain ⟨plainFirst, plainSecond⟩ := Bool.and_eq_true_iff.mp plain
    exact fits.elim (ihFirst plainFirst) (ihSecond plainSecond)
  | group index body ih => exact absurd plain Bool.false_ne_true

def OpensWith (c : Char) : Pattern → Prop
  | .char accepts => ∀ d, accepts d = true → d = c
  | .seq first _ => first.OpensWith c
  | .group _ body => body.OpensWith c
  | _ => False

theorem exists_cons_of_opensWith {c : Char} {pattern : Pattern} (opens : pattern.OpensWith c)
    {before covered after : Text} {captures : List Capture}
    (fits : pattern.Fits before covered after captures) : ∃ rest, covered = c :: rest := by
  induction pattern generalizing before covered after captures with
  | char accepts =>
    obtain ⟨d, accepted, rfl, -⟩ := fits
    exact ⟨[], by rw [opens d accepted]⟩
  | seq first second ihFirst ihSecond =>
    obtain ⟨_, back, _, _, rfl, -, fitsFirst, -⟩ := fits
    obtain ⟨rest, rfl⟩ := ihFirst opens fitsFirst
    exact ⟨rest ++ back, rfl⟩
  | group index body ih =>
    obtain ⟨_, -, fitsBody⟩ := fits
    exact ih opens fitsBody
  | _ => exact opens.elim

def Mentions (c : Char) : Pattern → Prop
  | .char accepts => ∀ d, accepts d = true → d = c
  | .seq first second => first.Mentions c ∨ second.Mentions c
  | .group _ body => body.Mentions c
  | _ => False

theorem Mentions.front {c : Char} {first : Pattern} (second : Pattern)
    (mentions : first.Mentions c) : (first ++ second).Mentions c := .inl mentions

theorem Mentions.back {c : Char} {second : Pattern} (first : Pattern)
    (mentions : second.Mentions c) : (first ++ second).Mentions c := .inr mentions

theorem mem_of_mentions {c : Char} {pattern : Pattern} (mentions : pattern.Mentions c)
    {before covered after : Text} {captures : List Capture}
    (fits : pattern.Fits before covered after captures) : c ∈ covered := by
  induction pattern generalizing before covered after captures with
  | char accepts =>
    obtain ⟨d, accepted, rfl, -⟩ := fits
    simp [mentions d accepted]
  | seq first second ihFirst ihSecond =>
    obtain ⟨_, _, _, _, rfl, -, fitsFirst, fitsSecond⟩ := fits
    rcases mentions with early | late
    · exact List.mem_append_left _ (ihFirst early fitsFirst)
    · exact List.mem_append_right _ (ihSecond late fitsSecond)
  | group index body ih =>
    obtain ⟨_, -, fitsBody⟩ := fits
    exact ih mentions fitsBody
  | _ => exact mentions.elim

theorem mentions_scheme : (literal "://").Mentions ':' :=
  .inl fun _ => eq_of_beq

variable {before covered after : Text} {captures : List Capture}

theorem fits_anyCase_iff (word : Text) :
    (anyCase word).Fits before covered after captures ↔ ReadsAs word covered ∧ captures = [] := by
  induction word generalizing before covered captures with
  | nil => simp [anyCase, Fits, ReadsAs]
  | cons letter rest ih =>
    cases rest with
    | nil => simp [anyCase, Fits, ReadsAs, List.forall₂_cons_left_iff, ← and_assoc]
    | cons next rest =>
      change (Pattern.seq (.char (foldsTo letter)) (anyCase (next :: rest))).Fits _ _ _ _ ↔ _
      rw [Fits]
      simp only [ih]
      constructor
      · rintro ⟨_, letters, _, _, rfl, rfl, ⟨c, folds, rfl, rfl⟩, reads, rfl⟩
        exact ⟨.cons folds reads, rfl⟩
      · rintro ⟨reads, rfl⟩
        obtain ⟨c, letters, folds, readsRest, rfl⟩ := List.forall₂_cons_left_iff.mp reads
        exact ⟨[c], letters, [], [], rfl, rfl, ⟨c, folds, rfl, rfl⟩, readsRest, rfl⟩

theorem fits_anyCase_cons (letter : Char) (rest : Text)
    (fits : (anyCase (letter :: rest)).Fits before covered after captures) :
    ∃ c more, foldsTo letter c = true ∧ covered = c :: more := by
  have reads := ((fits_anyCase_iff _).mp fits).1
  obtain ⟨c, more, folds, -, whole⟩ := List.forall₂_cons_left_iff.mp reads
  exact ⟨c, more, folds, whole⟩

theorem fits_whole_isNot (c : Char) (after : Text) :
    (whole (isNot c)).Fits before covered (c :: after) captures ↔ c ∉ covered ∧ captures = [] := by
  simp [whole, Fits, isNot, runLength, List.forall_mem_ne']

theorem fits_most_isNot (c d : Char) (after : Text) :
    (Pattern.most 1 (isNot c)).Fits before covered (d :: c :: after) captures ↔
      c ∉ covered ∧ captures = [] := by
  by_cases same : d = c <;> simp [Fits, isNot, runLength, List.forall_mem_ne', same]

theorem fits_word (text before after : Text) : (literal text).Fits before text after [] :=
  (fits_literal _ _ _ _ _).mpr ⟨rfl, rfl⟩

theorem Fits.append {first second : Pattern} {front back : Text} {inFront inBack : List Capture}
    (fits : first.Fits before front (back ++ after) inFront)
    (fitsThen : second.Fits (before ++ front) back after inBack) :
    (first ++ second).Fits before (front ++ back) after (inBack ++ inFront) :=
  ⟨front, back, inFront, inBack, rfl, rfl, fits, fitsThen⟩

theorem Fits.grouped {body : Pattern} (index : Nat)
    (fits : body.Fits before covered after captures) :
    (Pattern.group index body).Fits before covered after
      (⟨index, width before, width (before ++ covered)⟩ :: captures) :=
  ⟨captures, rfl, fits⟩

theorem fits_optional_literal (text : Text) :
    (optional (literal text)).Fits before covered after captures ↔
      (covered = text ∨ covered = []) ∧ captures = [] := by
  simp [optional, Fits, or_and_right]

theorem runLength_le_zero_iff (accepts : Char → Bool) (text : Text) :
    runLength accepts 0 text ≤ 0 ↔ ∀ c ∈ text.head?, accepts c = false := by
  cases text with
  | nil => simp [runLength]
  | cons c rest =>
    cases accepted : accepts c with
    | false => simp [runLength, accepted]
    | true =>
      rw [runLength, if_pos accepted, runLength_add]
      simp [accepted]

theorem fits_whole (accepts : Char → Bool) :
    (whole accepts).Fits before covered after captures ↔
      (∀ c ∈ covered, accepts c = true) ∧ (∀ c ∈ after.head?, accepts c = false) ∧
        captures = [] := by
  rw [whole, Fits, runLength_le_zero_iff]

theorem fits_wholeOne (accepts : Char → Bool) :
    (wholeOne accepts).Fits before covered after captures ↔
      covered ≠ [] ∧ (∀ c ∈ covered, accepts c = true) ∧
        (∀ c ∈ after.head?, accepts c = false) ∧ captures = [] := by
  change (Pattern.seq (.char accepts) (whole accepts)).Fits before covered after captures ↔ _
  rw [Fits]
  simp only [fits_whole]
  constructor
  · rintro ⟨_, back, _, _, rfl, rfl, ⟨c, accepted, rfl, rfl⟩, rest, ends, rfl⟩
    exact ⟨by simp, by simpa [accepted] using rest, ends, rfl⟩
  · rintro ⟨nonempty, all, ends, rfl⟩
    obtain ⟨c, back, rfl⟩ := List.exists_cons_of_ne_nil nonempty
    exact ⟨[c], back, [], [], rfl, rfl, ⟨c, all c (by simp), rfl, rfl⟩,
      fun d member => all d (by simp [member]), ends, rfl⟩

theorem fits_missingOpenBrace_iff :
    missingOpenBrace.Fits before covered after captures ↔
      ∃ first run, covered = first ++ '%' :: (run ++ ['%', '}']) ∧ '%' ∉ run ∧
        ((∃ c, first = [c] ∧ c ≠ '{') ∨ (first = [] ∧ before = [])) ∧
        captures =
          [⟨1, width (before ++ first), width (before ++ (first ++ '%' :: (run ++ ['%', '}'])))⟩] := by
  constructor
  · rintro ⟨first, _, _, _, rfl, rfl, start, _, rfl, _, _, _, _, rfl, rfl,
      ⟨_, run, _, _, rfl, rfl, sign, isRun⟩, close⟩
    obtain ⟨rfl, rfl⟩ := (fits_literal _ _ _ _ _).mp sign
    obtain ⟨rfl, rfl⟩ := (fits_literal _ _ _ _ _).mp close
    obtain ⟨plain, rfl⟩ := (fits_whole_isNot _ _).mp isRun
    refine ⟨first, run, by simp, plain, ?_, ?_⟩
    · rcases start with ⟨c, other, rfl, -⟩ | ⟨rfl, rfl, -⟩
      · exact .inl ⟨c, rfl, by simpa [isNot] using other⟩
      · exact .inr ⟨rfl, rfl⟩
    · rcases start with ⟨c, -, rfl, rfl⟩ | ⟨rfl, rfl, rfl⟩ <;> simp
  · rintro ⟨first, run, rfl, plain, start, rfl⟩
    refine ⟨first, _, [], [_], rfl, rfl, ?_, [], by simp, '%' :: run, ['%', '}'], [], [], by simp, rfl,
      ⟨['%'], run, [], [], rfl, rfl, fits_word _ _ _,
        (fits_whole_isNot _ _).mpr ⟨plain, rfl⟩⟩, fits_word _ _ _⟩
    rcases start with ⟨c, rfl, other⟩ | ⟨rfl, rfl⟩
    · exact .inl ⟨c, by simpa [isNot] using other, rfl, rfl⟩
    · exact .inr ⟨rfl, rfl, rfl⟩

theorem fits_missingOpenPercent_iff :
    missingOpenPercent.Fits before covered after captures ↔
      ∃ c run, covered = '{' :: c :: (run ++ [' ', '%', '}']) ∧ c ≠ '%' ∧ '%' ∉ run ∧
        captures = [⟨1, width (before ++ ['{']), width (before ++ covered)⟩] := by
  constructor
  · rintro ⟨_, _, _, _, rfl, rfl, brace, _, rfl, _, _, _, _, rfl, rfl,
      ⟨_, run, _, _, rfl, rfl, ⟨c, other, rfl, rfl⟩, isRun⟩, close⟩
    obtain ⟨rfl, rfl⟩ := (fits_literal _ _ _ _ _).mp brace
    obtain ⟨rfl, rfl⟩ := (fits_literal _ _ _ _ _).mp close
    obtain ⟨plain, rfl⟩ := (fits_most_isNot _ _ _).mp isRun
    exact ⟨c, run, by simp, by simpa [isNot] using other, plain, by simp⟩
  · rintro ⟨c, run, rfl, other, plain, rfl⟩
    exact ⟨['{'], _, [], [_], rfl, rfl, fits_word _ _ _, [], by simp,
      c :: run, [' ', '%', '}'], [], [], by simp, rfl,
      ⟨[c], run, [], [], rfl, rfl, ⟨c, by simpa [isNot] using other, rfl, rfl⟩,
        (fits_most_isNot _ _ _).mpr ⟨plain, rfl⟩⟩, fits_word _ _ _⟩

theorem fits_missingCloseBrace_iff :
    missingCloseBrace.Fits before covered after captures ↔
      ∃ run last, covered = '{' :: '%' :: (run ++ ['%']) ++ last ∧ '%' ∉ run ∧
        ((∃ c, last = [c] ∧ c ≠ '}') ∨ (last = [] ∧ after = [])) ∧
        captures = [
          ⟨2, width (before ++ '{' :: '%' :: (run ++ ['%'])), width (before ++ covered)⟩,
          ⟨1, width before, width (before ++ '{' :: '%' :: (run ++ ['%']))⟩] := by
  constructor
  · rintro ⟨_, last, _, _, rfl, rfl,
      ⟨_, rfl, _, _, _, _, rfl, rfl, ⟨_, run, _, _, rfl, rfl, opening, isRun⟩, sign⟩, _, rfl, ending⟩
    obtain ⟨rfl, rfl⟩ := (fits_literal _ _ _ _ _).mp opening
    obtain ⟨rfl, rfl⟩ := (fits_literal _ _ _ _ _).mp sign
    obtain ⟨plain, rfl⟩ := (fits_whole_isNot _ _).mp isRun
    refine ⟨run, last, by simp, plain, ?_, ?_⟩
    · rcases ending with ⟨c, other, rfl, -⟩ | ⟨rfl, rfl, -⟩
      · exact .inl ⟨c, rfl, by simpa [isNot] using other⟩
      · exact .inr ⟨rfl, rfl⟩
    · rcases ending with ⟨c, -, rfl, rfl⟩ | ⟨rfl, rfl, rfl⟩ <;> simp
  · rintro ⟨run, last, rfl, plain, ending, rfl⟩
    refine ⟨'{' :: '%' :: (run ++ ['%']), last, [_], [_], rfl, rfl, ⟨[], rfl, '{' :: '%' :: run, ['%'],
      [], [], by simp, rfl, ⟨['{', '%'], run, [], [], rfl, rfl,
        fits_word _ _ _, (fits_whole_isNot _ _).mpr ⟨plain, rfl⟩⟩,
      fits_word _ _ _⟩, [], by simp, ?_⟩
    rcases ending with ⟨c, rfl, other⟩ | ⟨rfl, rfl⟩
    · exact .inl ⟨c, by simpa [isNot] using other, rfl, rfl⟩
    · exact .inr ⟨rfl, rfl, rfl⟩

theorem fits_missingClosePercent_iff :
    missingClosePercent.Fits before covered after captures ↔
      ∃ run c, covered = '{' :: '%' :: (run ++ [c]) ++ ['}'] ∧ '}' ∉ run ∧ c ≠ '%' ∧
        captures = [⟨1, width before, width (before ++ '{' :: '%' :: (run ++ [c]))⟩] := by
  constructor
  · rintro ⟨_, _, _, _, rfl, rfl, ⟨_, rfl, _, _, _, _, rfl, rfl,
      ⟨_, run, _, _, rfl, rfl, opening, isRun⟩, ⟨c, other, rfl, rfl⟩⟩, brace⟩
    obtain ⟨rfl, rfl⟩ := (fits_literal _ _ _ _ _).mp opening
    obtain ⟨rfl, rfl⟩ := (fits_literal _ _ _ _ _).mp brace
    obtain ⟨plain, rfl⟩ := (fits_most_isNot _ _ _).mp isRun
    exact ⟨run, c, by simp, plain, by simpa [isNot] using other, by simp⟩
  · rintro ⟨run, c, rfl, plain, other, rfl⟩
    exact ⟨'{' :: '%' :: (run ++ [c]), ['}'], [_], [], rfl, rfl, ⟨[], by simp, '{' :: '%' :: run, [c],
      [], [], by simp, rfl, ⟨['{', '%'], run, [], [], rfl, rfl,
        fits_word _ _ _, (fits_most_isNot _ _ _).mpr ⟨plain, rfl⟩⟩,
      ⟨c, by simpa [isNot] using other, rfl, rfl⟩⟩, fits_word _ _ _⟩

theorem trainingSite_parts (fits : trainingSite.Fits before covered after captures) :
    ':' ∈ covered ∧ captures = [] := by
  have mentions : trainingSite.Mentions ':' := ((mentions_scheme.back _).front _).front _
  exact ⟨mem_of_mentions mentions fits, captures_eq_nil (by decide) fits⟩

theorem externalSlidesLink_parts (fits : externalSlidesLink.Fits before covered after captures) :
    ∃ site page, covered = ['('] ++ (site ++ page) ++ [')'] ∧ ':' ∈ site ∧
      captures = [⟨1, width (before ++ ['(']), width (before ++ ['('] ++ (site ++ page))⟩,
        ⟨2, width (before ++ ['('] ++ site), width (before ++ ['('] ++ site ++ page)⟩] := by
  obtain ⟨_, _, _, _, rfl, rfl, ⟨_, _, _, _, rfl, rfl, bracket, _, rfl, site, page, _, _, rfl, rfl,
    fitsSite, _, rfl, fitsPage⟩, close⟩ := fits
  obtain ⟨rfl, rfl⟩ := (fits_literal _ _ _ _ _).mp bracket
  obtain ⟨rfl, rfl⟩ := (fits_literal _ _ _ _ _).mp close
  obtain ⟨colon, rfl⟩ := trainingSite_parts fitsSite
  obtain rfl := captures_eq_nil (by decide) fitsPage
  exact ⟨site, page, rfl, colon, rfl⟩

theorem externalTutorialLink_parts
    (fits : externalTutorialLink.Fits before covered after captures) :
    ∃ site page suffix, covered = ['('] ++ (site ++ page ++ suffix) ++ [')'] ∧ ':' ∈ site ∧
      captures = [⟨1, width (before ++ ['(']), width (before ++ ['('] ++ (site ++ page ++ suffix))⟩,
        ⟨2, width (before ++ ['('] ++ site), width (before ++ ['('] ++ site ++ page)⟩] := by
  obtain ⟨_, _, _, _, rfl, rfl, ⟨_, _, _, _, rfl, rfl, bracket, _, rfl, _, suffix, _, _, rfl, rfl,
    ⟨site, page, _, _, rfl, rfl, fitsSite, _, rfl, fitsPage⟩, fitsSuffix⟩, close⟩ := fits
  obtain ⟨rfl, rfl⟩ := (fits_literal _ _ _ _ _).mp bracket
  obtain ⟨rfl, rfl⟩ := (fits_literal _ _ _ _ _).mp close
  obtain ⟨colon, rfl⟩ := trainingSite_parts fitsSite
  obtain rfl := captures_eq_nil (by decide) fitsPage
  obtain rfl := captures_eq_nil (by decide) fitsSuffix
  exact ⟨site, page, suffix, rfl, colon, rfl⟩

theorem doiLink_parts (fits : doiLink.Fits before covered after captures) :
    ∃ address, covered = ']' :: address ∧ ':' ∈ address := by
  have inAddress := (((mentions_scheme.back (literal "http" ++ optional (literal "s"))).front
    (optional (literal "dx."))).front (literal "doi.org/")).front
      (.group 2 (literal "10." ++ wholeOne inDoi))
  have mentions : doiLink.Mentions ':' := .inl (.inr inAddress)
  have colon := mem_of_mentions mentions fits
  have opens : doiLink.OpensWith ']' := fun _ => eq_of_beq
  obtain ⟨address, rfl⟩ := exists_cons_of_opensWith opens fits
  exact ⟨address, rfl, by simpa using colon⟩

theorem badLinkText_parts (fits : badLinkText.Fits before covered after captures) :
    ∃ c rest, covered = '[' :: c :: rest ++ [']'] ∧ opensVagueLink c = true := by
  obtain ⟨_, _, _, _, rfl, -, ⟨_, _, _, _, rfl, -, ⟨_, word, _, _, rfl, -,
    ⟨_, leading, _, _, rfl, -, opening, blank⟩, isWord⟩, -⟩, close⟩ := fits
  obtain ⟨rfl, -⟩ := (fits_literal _ _ _ _ _).mp opening
  obtain ⟨rfl, -⟩ := (fits_literal _ _ _ _ _).mp close
  have isVague : ∃ c rest, word = c :: rest ∧ opensVagueLink c = true := by
    rcases isWord with here | link
    · obtain ⟨c, rest, folds, rfl⟩ := fits_anyCase_cons 'h' ['e', 'r', 'e'] here
      exact ⟨c, rest, rfl, by simp [opensVagueLink, folds]⟩
    · obtain ⟨c, rest, folds, rfl⟩ := fits_anyCase_cons 'l' ['i', 'n', 'k'] link
      exact ⟨c, rest, rfl, by simp [opensVagueLink, folds]⟩
  cases leading with
  | nil =>
    obtain ⟨c, rest, rfl, vague⟩ := isVague
    exact ⟨c, _, rfl, vague⟩
  | cons c leading =>
    exact ⟨c, _, rfl, by simp [opensVagueLink, blank.1 c (by simp)]⟩

theorem Fits.peel {front back : Pattern} (plain : back.groupless = true)
    (fits : (front ++ back).Fits before covered after captures) :
    ∃ early late, covered = early ++ late ∧ front.Fits before early (late ++ after) captures ∧
      back.Fits (before ++ early) late after [] := by
  obtain ⟨early, late, _, _, rfl, rfl, fitsFront, fitsBack⟩ := fits
  obtain rfl := captures_eq_nil plain fitsBack
  exact ⟨early, late, rfl, fitsFront, fitsBack⟩

theorem toolUrl_parts (fits : toolUrl.Fits before covered after captures) :
    ∃ opening name address id closing,
      covered = ['{'] ++ opening ++ name ++ address ++ id ++ closing ∧ ':' ∈ address ∧
      captures = [
        ⟨2, width (before ++ (['{'] ++ opening ++ name ++ address)),
          width (before ++ (['{'] ++ opening ++ name ++ address) ++ id)⟩,
        ⟨1, width (before ++ (['{'] ++ opening)), width (before ++ (['{'] ++ opening) ++ name)⟩] := by
  -- Parts come off from the right, for the pattern is a chain to the left.
  obtain ⟨_, sign, rfl, toSpace, -⟩ := fits.peel (by decide)
  obtain ⟨_, space, rfl, toBracket, -⟩ := toSpace.peel (by decide)
  obtain ⟨_, bracket, rfl, toQuery, -⟩ := toBracket.peel (by decide)
  obtain ⟨_, query, rfl, toId, -⟩ := toQuery.peel (by decide)
  obtain ⟨_, id, _, _, rfl, rfl, toKey, _, rfl, fitsId⟩ := toId
  obtain rfl := captures_eq_nil (by decide) fitsId
  obtain ⟨_, key, rfl, toPath, -⟩ := toKey.peel (by decide)
  obtain ⟨_, path, rfl, toColon, -⟩ := toPath.peel (by decide)
  obtain ⟨_, colon, rfl, toSecure, fitsColon⟩ := toColon.peel (by decide)
  obtain ⟨_, secure, rfl, toScheme, -⟩ := toSecure.peel (by decide)
  obtain ⟨_, scheme, rfl, toParenthesis, -⟩ := toScheme.peel (by decide)
  obtain ⟨_, parenthesis, rfl, toName, -⟩ := toParenthesis.peel (by decide)
  obtain ⟨_, name, _, _, rfl, rfl, toBlank, _, rfl, fitsName⟩ := toName
  obtain rfl := captures_eq_nil (by decide) fitsName
  obtain rfl := captures_eq_nil (by decide) toBlank
  -- What precedes the name matters for its first character only.
  have opens : (callOpen ++ blanks ++ anyCase "tool" ++ blanksOne).OpensWith '{' := fun _ => eq_of_beq
  obtain ⟨opening, rfl⟩ := exists_cons_of_opensWith opens toBlank
  refine ⟨opening, name, parenthesis ++ scheme ++ secure ++ colon ++ path ++ key, id,
    query ++ bracket ++ space ++ sign, ?_, ?_, ?_⟩
  · simp only [List.append_assoc, List.cons_append, List.nil_append]
  · simp only [List.mem_append, mem_of_mentions mentions_scheme fitsColon, or_true, true_or]
  · simp only [List.append_assoc, List.cons_append, List.nil_append]

theorem boxTitle_parts (fits : boxTitle.Fits before covered after captures) :
    ∃ markers opening icon between title,
      before = [] ∧ covered = markers ++ (['#'] ++ opening ++ icon ++ between ++ title) ∧
      (∀ c ∈ markers, inQuoteMarkers c = true) ∧
      captures = [
        ⟨1, width markers, width (markers ++ (['#'] ++ opening ++ icon ++ between ++ title))⟩,
        ⟨3, width (markers ++ (['#'] ++ opening ++ icon ++ between)),
          width (markers ++ (['#'] ++ opening ++ icon ++ between) ++ title)⟩,
        ⟨2, width (markers ++ (['#'] ++ opening)), width (markers ++ (['#'] ++ opening) ++ icon)⟩] := by
  obtain ⟨_, heading, _, _, rfl, rfl, toHeading, _, rfl, fitsHeading⟩ := fits
  obtain rfl := captures_eq_nil (by decide) toHeading
  obtain ⟨_, blank, rfl, toMarker, isBlank⟩ := toHeading.peel (by decide)
  obtain ⟨_, marker, rfl, toMarkers, isMarker⟩ := toMarker.peel (by decide)
  obtain ⟨_, markers, rfl, ⟨rfl, rfl, -⟩, areMarkers⟩ := toMarkers.peel (by decide)
  obtain ⟨rfl, -⟩ := (fits_literal _ _ _ _ _).mp isMarker
  obtain ⟨_, title, _, _, rfl, rfl, toTitle, _, rfl, fitsTitle⟩ := fitsHeading
  obtain rfl := captures_eq_nil (by decide) fitsTitle
  obtain ⟨_, gap, rfl, toClose, -⟩ := toTitle.peel (by decide)
  obtain ⟨_, close, rfl, toSpace, -⟩ := toClose.peel (by decide)
  obtain ⟨_, space, rfl, toIcon, -⟩ := toSpace.peel (by decide)
  obtain ⟨_, icon, _, _, rfl, rfl, toOpening, _, rfl, fitsIcon⟩ := toIcon
  obtain rfl := captures_eq_nil (by decide) fitsIcon
  obtain rfl := captures_eq_nil (by decide) toOpening
  have opens : (literal "#" ++ atMost (literal "#") 5 ++ blanks ++ callOpen ++ blanks ++
    literal "icon" ++ blanksOne).OpensWith '#' := fun _ => eq_of_beq
  obtain ⟨opening, rfl⟩ := exists_cons_of_opensWith opens toOpening
  refine ⟨markers ++ ['>'] ++ blank, opening, icon, space ++ close ++ gap, title, rfl, ?_, ?_, ?_⟩
  · simp only [List.append_assoc, List.nil_append, List.cons_append]
    rfl
  · simp only [List.mem_append, List.mem_singleton]
    rintro c ((isQuoted | rfl) | isPadding)
    · exact areMarkers.1 c isQuoted
    · decide
    · simp [inQuoteMarkers, isBlank.1 c isPadding]
  · simp only [List.append_assoc, List.nil_append, List.cons_append]
    rfl

end Pattern

end CourseLint
