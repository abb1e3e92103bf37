import CourseLint.Proofs.Cuts
import CourseLint.Proofs.LeftToRight
import CourseLint.Proofs.LostDelimiters

set_option autoImplicit false

namespace CourseLint

open Text

structure Resolver where
  secure : Bool
  legacy : Bool
deriving DecidableEq, Repr

def Resolver.address (resolver : Resolver) : Text :=
  "http" ++ (if resolver.secure then ['s'] else []) ++ "://" ++
    (if resolver.legacy then ['d', 'x', '.'] else []) ++ "doi.org/"

theorem Resolver.address_append (resolver : Resolver) (behind : Text) :
    resolver.address ++ behind = "http" ++ ((if resolver.secure then ['s'] else []) ++
      ':' :: '/' :: '/' :: ((if resolver.legacy then ['d', 'x', '.'] else []) ++
        'd' :: 'o' :: ("i.org/" ++ behind))) := by
  delta address
  simp only [List.append_assoc]
  rfl

theorem Resolver.address_inj {resolver resolver' : Resolver} {behind behind' : Text}
    (same : resolver.address ++ behind = resolver'.address ++ behind') :
    resolver = resolver' ∧ behind = behind' := by
  rw [address_append, address_append] at same
  have fromScheme := List.append_cancel_left same
  obtain ⟨secure, legacy⟩ := resolver
  obtain ⟨secure', legacy'⟩ := resolver'
  cases secure <;> cases secure' <;> cases legacy <;> cases legacy' <;>
    simp at fromScheme <;> simp [fromScheme]

def doiOf (suffix : Text) : Text := "10." ++ suffix

def linkTo (resolver : Resolver) (suffix : Text) : Text :=
  "](" ++ (resolver.address ++ doiOf suffix) ++ [')']

structure DoiLink where
  resolver : Resolver
  suffix : Text
  nonempty : suffix ≠ []
  plain : ∀ c ∈ suffix, c ≠ ')' ∧ isBlankChar c = false

namespace DoiLink

def doi (link : DoiLink) : Text := doiOf link.suffix

def IsDataset (link : DoiLink) : Prop := "10.5281/zenodo".toList <+: link.doi

instance (link : DoiLink) : Decidable link.IsDataset :=
  inferInstanceAs (Decidable (_ <+: _))

theorem no_close_doi (link : DoiLink) : ')' ∉ link.doi := by
  intro close
  rcases List.mem_append.mp close with early | late
  · exact absurd early (by decide)
  · exact (link.plain _ late).1 rfl

def form : Form DoiLink where
  text link := linkTo link.resolver link.suffix
  Behind _ := True
  nonempty link := by simp [linkTo]
  determined := by
    intro link link' after after' _ _ same
    have fromAddress : link.resolver.address ++ (link.doi ++ ')' :: after) =
        link'.resolver.address ++ (link'.doi ++ ')' :: after') := by
      simpa [linkTo, doi] using same
    obtain ⟨sameResolver, fromDoi⟩ := Resolver.address_inj fromAddress
    obtain ⟨sameDoi, -⟩ := cut_at_first link.no_close_doi link'.no_close_doi fromDoi
    have sameSuffix : link.suffix = link'.suffix := List.append_cancel_left sameDoi
    cases link
    cases link'
    simp_all

theorem length_le_of_stands {before gap back after : Text} {link : DoiLink}
    (noBracket : ']' ∉ before) (stands : form.Stands gap link after (before ++ back)) :
    before.length ≤ gap.length := by
  have parts : before ++ back = gap ++ (form.text link ++ after) := by
    rw [stands.1, List.append_assoc]
  rcases List.append_eq_append_iff.mp parts with ⟨between, rfl, -⟩ | ⟨between, rfl, opens⟩
  · simp
  · cases between with
    | nil => simp
    | cons c between =>
      have bracket : c = ']' := (List.cons.inj opens).1.symm
      simp [bracket] at noBracket

def groups (sighting : Sighting DoiLink) : List Capture :=
  let front := sighting.before ++ "]("
  let address := sighting.piece.resolver.address
  [⟨1, width front, width (front ++ (address ++ sighting.piece.doi))⟩,
    ⟨2, width (front ++ address), width (front ++ address ++ sighting.piece.doi)⟩]

end DoiLink

namespace Pattern

variable {before covered after : Text} {captures : List Capture}

def resolverAddress : Pattern :=
  literal "http" ++ optional (literal "s") ++ literal "://" ++ optional (literal "dx.") ++
    literal "doi.org/"

theorem fits_resolverAddress_iff :
    resolverAddress.Fits before covered after captures ↔
      (∃ resolver : Resolver, covered = resolver.address) ∧ captures = [] := by
  constructor
  · intro fits
    obtain rfl := captures_eq_nil (by decide) fits
    obtain ⟨_, _, rfl, toHost, site⟩ := fits.peel (by decide)
    obtain ⟨_, host, rfl, toColon, isHost⟩ := toHost.peel (by decide)
    obtain ⟨_, _, rfl, toScheme, colon⟩ := toColon.peel (by decide)
    obtain ⟨_, scheme, rfl, http, isScheme⟩ := toScheme.peel (by decide)
    simp only [fits_literal, fits_optional_literal, and_true] at http isScheme colon isHost site
    rw [http, colon, site]
    refine ⟨?_, rfl⟩
    cases isScheme with
    | inl secure =>
      cases isHost with
      | inl legacy => exact ⟨⟨true, true⟩, by rw [secure, legacy]; rfl⟩
      | inr newer => exact ⟨⟨true, false⟩, by rw [secure, newer]; rfl⟩
    | inr plain =>
      cases isHost with
      | inl legacy => exact ⟨⟨false, true⟩, by rw [plain, legacy]; rfl⟩
      | inr newer => exact ⟨⟨false, false⟩, by rw [plain, newer]; rfl⟩
  · intro parts
    obtain ⟨⟨resolver, rfl⟩, rfl⟩ := parts
    have maybe (text before back : Text) (present : Bool) :
        (optional (literal text)).Fits before (if present then text else []) back [] :=
      (fits_optional_literal text).mpr ⟨by cases present <;> simp, rfl⟩
    exact ((((fits_word "http" _ _).append (maybe "s" _ _ _)).append (fits_word "://" _ _)).append
      (maybe "dx." _ _ _)).append (fits_word "doi.org/" _ _)

end Pattern

theorem inDoi_eq_true_iff (c : Char) :
    Pattern.inDoi c = true ↔ c ≠ ')' ∧ isBlankChar c = false := by
  simp [Pattern.inDoi]

theorem DoiLink.readBy : form.ReadBy Pattern.doiLink groups := by
  intro before covered after captures
  constructor
  · intro fits
    obtain ⟨_, _, rfl, toAddress, close⟩ := fits.peel (by decide)
    obtain ⟨opening, _, _, _, rfl, rfl, isOpening, _, rfl, address, identifier, _, _, rfl, rfl,
      isAddress, _, rfl, ten, suffix, _, _, rfl, rfl, isTen, isSuffix⟩ := toAddress
    obtain ⟨rfl, -⟩ := (Pattern.fits_literal _ _ _ _ _).mp close
    obtain ⟨rfl, rfl⟩ := (Pattern.fits_literal _ _ _ _ _).mp isOpening
    obtain ⟨rfl, rfl⟩ := (Pattern.fits_literal _ _ _ _ _).mp isTen
    obtain ⟨⟨resolver, rfl⟩, rfl⟩ := Pattern.fits_resolverAddress_iff.mp isAddress
    obtain ⟨nonempty, plain, -, rfl⟩ := (Pattern.fits_wholeOne _).mp isSuffix
    have plain' : ∀ c ∈ suffix, c ≠ ')' ∧ isBlankChar c = false :=
      fun c member => (inDoi_eq_true_iff c).mp (plain c member)
    exact ⟨⟨resolver, suffix, nonempty, plain'⟩, rfl, trivial, rfl⟩
  · intro parts
    obtain ⟨link, rfl, -, rfl⟩ := parts
    have isSuffix : (Pattern.wholeOne Pattern.inDoi).Fits
        (before ++ "](" ++ link.resolver.address ++ "10.") link.suffix (')' :: after) [] := by
      rw [Pattern.fits_wholeOne]
      refine ⟨link.nonempty, ?_, by simp [Pattern.inDoi], rfl⟩
      exact fun c member => (inDoi_eq_true_iff c).mpr (link.plain c member)
    have ten := Pattern.fits_word "10." (before ++ "](" ++ link.resolver.address)
    have isDoi := (ten _).append isSuffix
    have isResolver : Pattern.resolverAddress.Fits (before ++ "](") link.resolver.address
        (link.doi ++ ')' :: after) [] := Pattern.fits_resolverAddress_iff.mpr ⟨⟨_, rfl⟩, rfl⟩
    have isAddress := isResolver.append (isDoi.grouped 2)
    have toAddress := (Pattern.fits_word "](" before _).append (isAddress.grouped 1)
    exact toAddress.append (Pattern.fits_word ")" _ after)

namespace DoiLink

theorem group_doi {lineIndex : Nat} {line after : Text} {sighting : Sighting DoiLink}
    (whole : line = sighting.before ++ form.text sighting.piece ++ after) :
    Occurrence.group ⟨lineIndex, line, form.matchOf groups sighting⟩ 2 = sighting.piece.doi := by
  apply Occurrence.group_eq (sighting.before ++ "](" ++ sighting.piece.resolver.address)
    sighting.piece.doi (')' :: after)
  case capture => rfl
  case parts => simp [whole, form, linkTo, doi]

theorem firstOccurrencesWhere_eq {line : Text} {links : List (Sighting DoiLink)}
    (isMet : form.MetOn line links) :
    Pattern.doiLink.firstOccurrencesWhere
        (fun occurrence => !Rule.datasetDoi.isPrefixOf (occurrence.group 2)) [line] =
      ((links.find? fun met => !decide met.piece.IsDataset).map fun met =>
        ⟨0, line, form.matchOf groups met⟩).toList := by
  apply readBy.firstOccurrencesWhere_eq isMet fun link => !decide link.IsDataset
  intro sighting after whole
  rw [group_doi whole]
  congr 1
  exact Bool.eq_iff_iff.mpr (List.isPrefixOf_iff_prefix.trans decide_eq_true_iff.symm)

end DoiLink

namespace Rule

open DoiLink (form groups)

theorem exists_message_doiCitation :
    ∃ message, ∀ page : Page, doiCitation.findings page =
      (Pattern.doiLink.firstOccurrencesWhere
        (fun occurrence => !datasetDoi.isPrefixOf (occurrence.group 2)) page.lines).map
          (Occurrence.replace message citationLink) :=
  ⟨_, fun _ => rfl⟩

theorem exists_check_doiCitation (page : Page) :
    ∃ message, ∀ {lineIndex : Nat} {line : Text} {links : List (Sighting DoiLink)},
      page.lines[lineIndex]? = some line → form.MetOn line links →
      (doiCitation.check page).filter (·.range.start.line == lineIndex + 1) =
        ((links.find? fun met => !decide met.piece.IsDataset).map fun met =>
          doiCitation.diagnose page.path
            ⟨form.spanOf lineIndex line met, message, some citationLink⟩).toList := by
  obtain ⟨message, findings⟩ := exists_message_doiCitation
  refine ⟨message, fun {lineIndex line links} present isMet => ?_⟩
  have builtin : doiCitation ∈ Registry.builtinRules := by simp [Registry.builtinRules]
  rw [check_atLine builtin rfl (by decide) page present, findings,
    DoiLink.firstOccurrencesWhere_eq isMet]
  cases links.find? fun met => !decide met.piece.IsDataset with
  | none => rfl
  | some met => simp [Occurrence.replace, Occurrence.span, Finding.shift, Span.shift, Form.matchOf,
      Form.spanOf]

theorem pairwise_check_doiCitation (page : Page) :
    (doiCitation.check page).Pairwise fun one other =>
      one.range.start.line < other.range.start.line := by
  obtain ⟨message, findings⟩ := exists_message_doiCitation
  rw [check, findings, List.map_map, List.pairwise_map]
  apply (Pattern.pairwise_firstOccurrencesWhere _ _ _).imp
  intro one other above
  simpa [diagnose_eq, Occurrence.replace, Occurrence.span, Span.range] using above

theorem exists_line_of_mem_check [Pattern.Engine] {rule : Rule}
    (builtin : rule ∈ Registry.builtinRules)
    (page : Page) {diagnostic : Diagnostic} (reported : diagnostic ∈ rule.check page) :
    ∃ lineIndex < page.lines.length, diagnostic.range.start.line = lineIndex + 1 := by
  obtain ⟨finding, found, rfl⟩ := List.mem_map.mp reported
  obtain ⟨lineIndex, _, _, _, present, span⟩ := (reports_of_builtin builtin page found).liesOn
  refine ⟨lineIndex, (List.getElem?_eq_some_iff.mp present).1, ?_⟩
  rw [diagnose_eq, span]
  rfl

theorem doiCitation_reports_first_citable (page : Page) :
    (doiCitation.check page).Pairwise
      (fun one other => one.range.start.line < other.range.start.line) ∧
    (∀ diagnostic ∈ doiCitation.check page,
      ∃ lineIndex < page.lines.length, diagnostic.range.start.line = lineIndex + 1) ∧
    ∀ (lineIndex : Nat) (line : Text), page.lines[lineIndex]? = some line →
      ∃ links, (∀ met, form.MetOn line met ↔ met = links) ∧
        (Pattern.doiLink.occurrences lineIndex line).map
            (fun occurrence => (occurrence.span, occurrence.group 2)) =
          links.map (fun met => (form.spanOf lineIndex line met, met.piece.doi)) ∧
        ((doiCitation.check page).filter (·.range.start.line == lineIndex + 1) = [] ↔
          ∀ met ∈ links, met.piece.IsDataset) ∧
        ((doiCitation.check page).filter (·.range.start.line == lineIndex + 1)).map
            Diagnostic.range =
          ((links.find? fun met => !decide met.piece.IsDataset).map fun met =>
            (form.spanOf lineIndex line met).range).toList := by
  have builtin : doiCitation ∈ Registry.builtinRules := by simp [Registry.builtinRules]
  refine ⟨pairwise_check_doiCitation page, ?_, ?_⟩
  · exact fun diagnostic reported => exists_line_of_mem_check builtin page reported
  intro lineIndex line present
  obtain ⟨message, atLine⟩ := exists_check_doiCitation page
  obtain ⟨links, isMet, -⟩ := DoiLink.readBy.exists_met line
  rw [atLine present isMet]
  refine ⟨links, ?_, ?_, ?_, ?_⟩
  · exact fun met => isMet.iff_eq
  · apply DoiLink.readBy.occurrences_map_eq isMet DoiLink.doi
    exact fun _ _ whole => DoiLink.group_doi whole
  · simp
  · cases links.find? fun met => !decide met.piece.IsDataset with
    | none => rfl
    | some first => simp [diagnose_eq]

def datasetsAroundPaper : Text :=
  "[a](https://doi.org/10.5281/zenodo.1) [b](http://dx.doi.org/10.1000/x) " ++
    "[c](https://doi.org/10.5281/zenodo.2)"

theorem doiCitation_reports_paper_between_datasets :
    ["intro".toList, datasetsAroundPaper][1]? = some datasetsAroundPaper ∧
    (∃ links, form.MetOn datasetsAroundPaper links ∧
      links.map (fun met => (form.spanOf 1 datasetsAroundPaper met, met.piece.doi)) =
        [(⟨1, datasetsAroundPaper, 2, 37⟩, "10.5281/zenodo.1".toList),
          (⟨1, datasetsAroundPaper, 40, 70⟩, "10.1000/x".toList),
          (⟨1, datasetsAroundPaper, 73, 108⟩, "10.5281/zenodo.2".toList)] ∧
      ¬ ∀ met ∈ links, met.piece.IsDataset) ∧
    (doiCitation.check
        ⟨"tutorial.md", ["intro".toList, datasetsAroundPaper], [], fun _ => false⟩).map
      Diagnostic.range = [⟨⟨2, 41⟩, ⟨2, 71⟩⟩] := by
  obtain ⟨-, -, atLine⟩ := doiCitation_reports_first_citable
    ⟨"tutorial.md", ["intro".toList, datasetsAroundPaper], [], fun _ => false⟩
  obtain ⟨links, isMet, pieces, silent, -⟩ := atLine 1 datasetsAroundPaper rfl
  refine ⟨rfl, ⟨links, (isMet links).mpr rfl, ?_, ?_⟩, ?_⟩
  · exact pieces.symm.trans (by decide +kernel)
  · rw [← silent]
    decide +kernel
  · decide +kernel

end Rule

def balanced (depth : Nat) : Text → Bool
  | [] => depth == 0
  | c :: rest =>
    if c = '(' then balanced (depth + 1) rest
    else if c = ')' then 0 < depth && balanced (depth - 1) rest
    else balanced depth rest

theorem count_of_balanced {depth : Nat} {text : Text} (isBalanced : balanced depth text = true) :
    depth + text.count '(' = text.count ')' := by
  induction text generalizing depth with
  | nil => simpa [balanced] using isBalanced
  | cons c rest ih =>
    simp only [balanced] at isBalanced
    split at isBalanced
    · next opens =>
      have inRest := ih isBalanced
      simp [opens]
      omega
    · split at isBalanced
      · next closes =>
        simp only [Bool.and_eq_true, decide_eq_true_eq] at isBalanced
        have inRest := ih isBalanced.2
        simp [closes]
        omega
      · next notOpen notClose =>
        have inRest := ih isBalanced
        simpa [List.count_cons, notOpen, notClose] using inRest

theorem mem_close_iff_of_balanced {text : Text} (isBalanced : balanced 0 text = true) :
    ')' ∈ text ↔ '(' ∈ text := by
  have counts := count_of_balanced isBalanced
  rw [← List.count_pos_iff, ← List.count_pos_iff]
  omega

theorem exists_cons_of_balanced {text : Text} (isBalanced : balanced 0 text = true)
    (nonempty : text ≠ []) : ∃ c rest, text = c :: rest ∧ c ≠ ')' := by
  obtain ⟨c, rest, rfl⟩ := List.exists_cons_of_ne_nil nonempty
  refine ⟨c, rest, rfl, ?_⟩
  rintro rfl
  simp [balanced] at isBalanced

theorem exists_behind_first_close (suffix : Text) :
    ∃ left, suffix ++ [')'] = suffix.takeWhile (· != ')') ++ ')' :: left ∧
      (left = [] ↔ ')' ∉ suffix) := by
  induction suffix with
  | nil => exact ⟨[], rfl, by simp⟩
  | cons c rest ih =>
    by_cases closes : c = ')'
    · exact ⟨rest ++ [')'], by simp [closes], by simp [closes]⟩
    · obtain ⟨left, cut, complete⟩ := ih
      refine ⟨left, ?_, ?_⟩
      · rw [List.takeWhile_cons_of_pos (by simpa using closes), List.cons_append, cut,
          List.cons_append]
      · simpa [Ne.symm closes] using complete

theorem Span.range_inj {lineIndex start stop stop' : Nat} {line : Text}
    (same : range ⟨lineIndex, line, start, stop⟩ = range ⟨lineIndex, line, start, stop'⟩) :
    stop = stop' := by
  simp only [range, Range.mk.injEq, true_and] at same
  split at same <;> split at same <;> simp_all

structure PaperLink (line before : Text) (resolver : Resolver) (suffix after : Text) : Prop where
  parts : line = before ++ linkTo resolver suffix ++ after
  nonempty : suffix ≠ []
  unbroken : ∀ c ∈ suffix, isBlankChar c = false
  isBalanced : balanced 0 suffix = true
  citable : ¬ "10.5281/zenodo".toList <+: doiOf suffix
  first : ∀ {gap after : Text} {link : DoiLink}, DoiLink.form.Stands gap link after line →
    before.length ≤ gap.length

namespace PaperLink

variable {line before suffix after : Text} {resolver : Resolver}
  (paperLink : PaperLink line before resolver suffix after)
include paperLink

def shown : DoiLink where
  resolver := resolver
  suffix := suffix.takeWhile (· != ')')
  nonempty := by
    obtain ⟨c, rest, rfl, open'⟩ :=
      exists_cons_of_balanced paperLink.isBalanced paperLink.nonempty
    simp [open']
  plain := by
    intro c member
    have notClose : c ≠ ')' := by simpa using List.mem_takeWhile_imp member
    exact ⟨notClose, paperLink.unbroken c ((List.takeWhile_sublist _).mem member)⟩

theorem exists_left :
    ∃ left, suffix ++ [')'] = suffix.takeWhile (· != ')') ++ ')' :: left ∧
      (left = [] ↔ '(' ∉ suffix) ∧
      linkTo resolver suffix = DoiLink.form.text paperLink.shown ++ left := by
  obtain ⟨left, cut, complete⟩ := exists_behind_first_close suffix
  rw [mem_close_iff_of_balanced paperLink.isBalanced] at complete
  refine ⟨left, cut, complete, ?_⟩
  simp [linkTo, doiOf, DoiLink.form, shown, cut]

theorem not_isDataset : ¬ paperLink.shown.IsDataset := by
  obtain ⟨left, cut, -⟩ := paperLink.exists_left
  have parts : doiOf suffix ++ ')' :: [] = paperLink.shown.doi ++ ')' :: left := by
    simp [doiOf, DoiLink.doi, shown, cut]
  have noClose : ')' ∉ "10.5281/zenodo".toList := by decide
  intro isDataset
  have inShown : "10.5281/zenodo".toList <+: paperLink.shown.doi ++ ')' :: left :=
    (prefix_append_cons_iff noClose).mpr isDataset
  rw [← parts] at inShown
  exact paperLink.citable ((prefix_append_cons_iff noClose).mp inShown)

theorem line_eq {left : Text}
    (link : linkTo resolver suffix = DoiLink.form.text paperLink.shown ++ left) :
    line = before ++ DoiLink.form.text paperLink.shown ++ (left ++ after) := by
  apply paperLink.parts.trans
  rw [link]
  simp only [List.append_assoc]

theorem exists_met :
    ∃ later, DoiLink.form.MetOn line (⟨before, paperLink.shown⟩ :: later) := by
  obtain ⟨left, -, -, link⟩ := paperLink.exists_left
  obtain ⟨links, isMet, -⟩ := DoiLink.readBy.exists_met line
  obtain ⟨later, rfl⟩ := isMet.exists_cons ⟨paperLink.line_eq link, trivial⟩ paperLink.first
  exact ⟨later, isMet⟩

theorem exists_reported (page : Page) {lineIndex : Nat}
    (present : page.lines[lineIndex]? = some line) :
    ∃ finding : Finding,
      (Rule.doiCitation.check page).filter (·.range.start.line == lineIndex + 1) =
        [Rule.doiCitation.diagnose page.path finding] ∧
      finding.span = DoiLink.form.spanOf lineIndex line ⟨before, paperLink.shown⟩ ∧
      finding.replacement = some citationLink := by
  obtain ⟨later, isMet⟩ := paperLink.exists_met
  obtain ⟨message, atLine⟩ := Rule.exists_check_doiCitation page
  have only := atLine present isMet
  rw [List.find?_cons_of_pos (by simp [paperLink.not_isDataset])] at only
  exact ⟨_, only, rfl, rfl⟩

theorem range_eq_iff (lineIndex : Nat) :
    (DoiLink.form.spanOf lineIndex line ⟨before, paperLink.shown⟩).range =
      Span.range ⟨lineIndex, line, width before, width (before ++ linkTo resolver suffix)⟩ ↔
      '(' ∉ suffix := by
  obtain ⟨left, -, complete, link⟩ := paperLink.exists_left
  rw [← complete, link]
  constructor
  · intro same
    have widths := Span.range_inj same
    simp only [width_append] at widths
    exact (width_eq_zero_iff left).mp (by omega)
  · rintro rfl
    rw [List.append_nil]
    rfl

theorem rewrites (behind : Text) :
    Rewrites before (DoiLink.form.text paperLink.shown) behind citationLink := by
  have fits := (DoiLink.readBy before _ behind _).mpr ⟨paperLink.shown, rfl, trivial, rfl⟩
  obtain ⟨address, opens, colon⟩ := Pattern.doiLink_parts fits
  rw [opens]
  exact .citation before address behind colon

end PaperLink

namespace Rule

variable {source : Text}

theorem citation_ends_at_first_parenthesis (page : Page)
    (pageLines : page.lines = splitLines source) {lineIndex : Nat} {line : Line}
    (present : (linesOf source)[lineIndex]? = some line)
    {before suffix after : Text} {resolver : Resolver}
    (paperLink : PaperLink line.text before resolver suffix after) :
    ∃ left, suffix ++ [')'] = suffix.takeWhile (· != ')') ++ ')' :: left ∧
      (left = [] ↔ '(' ∉ suffix) ∧
      ∃ diagnostic,
        (doiCitation.check page).filter (·.range.start.line == lineIndex + 1) = [diagnostic] ∧
        diagnostic.range = Span.range ⟨lineIndex, line.text, width before,
          width (before ++ linkTo resolver (suffix.takeWhile (· != ')')))⟩ ∧
        (diagnostic.range = Span.range ⟨lineIndex, line.text, width before,
          width (before ++ linkTo resolver suffix)⟩ ↔ '(' ∉ suffix) ∧
        repair source [diagnostic] = some
          (⟨((linesOf source).set lineIndex
            ⟨before ++ citationLink ++ left ++ after, line.ending⟩).flatMap Line.source, 1, 0⟩,
          0) := by
  obtain ⟨left, cut, complete, link⟩ := paperLink.exists_left
  have onPage : page.lines[lineIndex]? = some line.text := by
    rw [pageLines, splitLines, List.getElem?_map, present]
    rfl
  obtain ⟨finding, only, span, replaced⟩ := paperLink.exists_reported page onPage
  have range : (doiCitation.diagnose page.path finding).range = finding.span.range := by
    rw [diagnose_eq]
  rw [span] at range
  refine ⟨left, cut, complete, _, only, range, ?_, ?_⟩
  · rw [range]
    exact paperLink.range_eq_iff lineIndex
  · have parts := paperLink.line_eq link
    obtain ⟨piece, rfl, rfl, rfl, isCovered, isTail⟩ := exists_piece _ _ _ present parts
    have samePlace : finding.span = piece.span := by
      rw [span, Piece.span, isCovered]
      rfl
    have repairs : (doiCitation.diagnose page.path finding).Repairs piece citationLink :=
      ⟨doiCitation.diagnose_asks page.path samePlace replaced,
        isCovered ▸ paperLink.rewrites piece.tail⟩
    rw [repairs.lands, isTail]
    simp only [List.append_assoc]

def paperLine : Text := "[p](https://doi.org/10.1016/S0140-6736(20)30183-5)"

theorem paperLink_paperLine :
    PaperLink paperLine "[p" ⟨true, false⟩ "1016/S0140-6736(20)30183-5" [] where
  parts := by decide +kernel
  nonempty := by decide
  unbroken := by
    have all : ("1016/S0140-6736(20)30183-5".toList.all fun c => !isBlankChar c) = true := by decide
    simpa only [List.all_eq_true, Bool.not_eq_true'] using all
  isBalanced := by decide
  citable := by decide
  first stands := by
    have parts : paperLine = "[p".toList ++ paperLine.drop 2 := by decide +kernel
    rw [parts] at stands
    exact DoiLink.length_le_of_stands (by decide) stands

theorem citation_ends_in_identifier :
    PaperLink paperLine "[p" ⟨true, false⟩ "1016/S0140-6736(20)30183-5" [] ∧
    (linesOf (paperLine ++ "\r\n"))[0]? = some ⟨paperLine, .carriageReturnLineFeed⟩ ∧
    ∃ diagnostic,
      (doiCitation.check ⟨"tutorial.md", splitLines (paperLine ++ "\r\n"), [],
        fun _ => false⟩).filter (·.range.start.line == 1) = [diagnostic] ∧
      repair (paperLine ++ "\r\n") [diagnostic] = some
        (⟨"[p](\x7b% cite ... %\x7d)30183-5)\r\n".toList, 1, 0⟩, 0) := by
  have present : (linesOf (paperLine ++ "\r\n"))[0]? =
      some ⟨paperLine, .carriageReturnLineFeed⟩ := by decide +kernel
  obtain ⟨left, cut, -, diagnostic, only, -, -, repaired⟩ := citation_ends_at_first_parenthesis
    ⟨"tutorial.md", splitLines (paperLine ++ "\r\n"), [], fun _ => false⟩ rfl present
    paperLink_paperLine
  have isLeft : "30183-5)".toList = left := by
    have taken : "1016/S0140-6736(20)30183-5".toList.takeWhile (· != ')') =
        "1016/S0140-6736(20".toList := by decide
    have whole : "1016/S0140-6736(20)30183-5".toList ++ [')'] =
        "1016/S0140-6736(20".toList ++ ')' :: "30183-5)".toList := by decide
    rw [taken, whole] at cut
    exact (List.cons.inj (List.append_cancel_left cut)).2
  refine ⟨paperLink_paperLine, present, diagnostic, only, repaired.trans ?_⟩
  rw [← isLeft]
  decide +kernel

theorem citation_leaves_rest_of_identifier :
    PaperLink paperLine "[p" ⟨true, false⟩ "1016/S0140-6736(20)30183-5" [] ∧
    Span.range ⟨0, paperLine, 2, width paperLine⟩ = ⟨⟨1, 3⟩, ⟨2, 1⟩⟩ ∧
    (doiCitation.check ⟨"tutorial.md", [paperLine], [], fun _ => false⟩).map Diagnostic.range =
      [⟨⟨1, 3⟩, ⟨1, 43⟩⟩] ∧
    repair paperLine (doiCitation.check ⟨"tutorial.md", [paperLine], [], fun _ => false⟩) =
      some (⟨"[p](\x7b% cite ... %\x7d)30183-5)".toList, 1, 0⟩, 0) :=
  ⟨paperLink_paperLine, by decide +kernel, by decide +kernel, by decide +kernel⟩

end Rule

end CourseLint
