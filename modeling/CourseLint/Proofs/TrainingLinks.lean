import CourseLint.Proofs.Cuts
import CourseLint.Proofs.Reports
import CourseLint.Proofs.Round
import CourseLint.Proofs.Selection

set_option autoImplicit false

namespace CourseLint

open Text

inductive PageKind where
  | slides
  | tutorial
deriving DecidableEq, Repr

namespace PageKind

def ending : PageKind → Text
  | .slides => "slides.html"
  | .tutorial => "tutorial.html"

def linkedEnding : PageKind → Text
  | .slides => "slides.html"
  | .tutorial => "tutorial.md"

def rule : PageKind → Rule
  | .slides => Rule.externalSlidesLink
  | .tutorial => Rule.externalTutorialLink

def pattern : PageKind → Pattern
  | .slides => Pattern.externalSlidesLink
  | .tutorial => Pattern.externalTutorialLink

def word : PageKind → Text
  | .slides => "slides.html"
  | .tutorial => "tutorial"

def suffix : PageKind → Text
  | .slides => []
  | .tutorial => ".html"

def extension : PageKind → Text
  | .slides => []
  | .tutorial => ".md"

theorem word_suffix (kind : PageKind) : kind.word ++ kind.suffix = kind.ending := by
  cases kind <;> decide

theorem word_extension (kind : PageKind) : kind.word ++ kind.extension = kind.linkedEnding := by
  cases kind <;> decide

def report (kind : PageKind) (occurrence : Occurrence) : Option Finding :=
  occurrence.replaceGroup? Rule.externalLinkMessage 1
    (Rule.internalLink (occurrence.group 2 ++ kind.extension))

theorem findings_eq (kind : PageKind) (page : Page) :
    kind.rule.findings page = (kind.pattern.firstOccurrences page.lines).filterMap kind.report := by
  cases kind with
  | slides =>
    have whole : PageKind.slides.report = fun occurrence =>
        occurrence.replaceGroup? Rule.externalLinkMessage 1
          (Rule.internalLink (occurrence.group 2)) := by
      funext occurrence
      rw [report, extension, List.append_nil]
    rw [whole]
    rfl
  | tutorial => rfl

theorem plain_ending (kind : PageKind) : '(' ∉ kind.ending ∧ ')' ∉ kind.ending := by
  cases kind <;> decide

theorem ending_slides :
    ending .slides = ['s', 'l', 'i', 'd', 'e', 's', '.', 'h', 't', 'm', 'l'] := rfl

theorem ending_tutorial :
    ending .tutorial = ['t', 'u', 't', 'o', 'r', 'i', 'a', 'l', '.', 'h', 't', 'm', 'l'] := rfl

theorem eq_of_endings {kind kind' : PageKind} {front front' : Text}
    (same : front ++ kind.ending = front' ++ kind'.ending) : kind = kind' := by
  have letters := congrArg (fun text => text.reverse[5]?) same
  cases kind <;> cases kind' <;> simp [ending_slides, ending_tutorial] at letters ⊢

end PageKind

structure TrainingSite where
  secure : Bool
  mirror : Bool
deriving DecidableEq, Repr

namespace TrainingSite

def address (site : TrainingSite) : Text :=
  "http" ++ (if site.secure then ['s'] else []) ++ "://" ++
    (if site.mirror then "galaxyproject.github.io".toList
      else "training.galaxyproject.org".toList) ++ "/training-material/"

theorem plain_address (site : TrainingSite) :
    '(' ∉ site.address ∧ ')' ∉ site.address := by
  obtain ⟨secure, mirror⟩ := site
  cases secure <;> cases mirror <;> decide

end TrainingSite

structure TrainingAddress where
  kind : PageKind
  site : TrainingSite
  stem : Text
  plain : ∀ c ∈ stem, c ≠ '(' ∧ c ≠ ')' ∧ isBlankChar c = false

namespace TrainingAddress

def path (address : TrainingAddress) : Text := address.stem ++ address.kind.ending

def url (address : TrainingAddress) : Text := address.site.address ++ address.path

def linkedPath (address : TrainingAddress) : Text := address.stem ++ address.kind.linkedEnding

variable (address : TrainingAddress)

theorem no_open_url : '(' ∉ address.url := by
  have noStem : '(' ∉ address.stem := fun member => (address.plain _ member).1 rfl
  simp [url, path, address.site.plain_address, address.kind.plain_ending, noStem]

theorem no_close_url : ')' ∉ address.url := by
  have noStem : ')' ∉ address.stem := fun member => (address.plain _ member).2.1 rfl
  simp [url, path, address.site.plain_address, address.kind.plain_ending, noStem]

variable {address} in
theorem kind_eq_of_url_eq {other : TrainingAddress} (same : address.url = other.url) :
    address.kind = other.kind := by
  rw [url, url, path, path, ← List.append_assoc, ← List.append_assoc] at same
  exact PageKind.eq_of_endings same

end TrainingAddress

namespace Pattern

variable {before covered after : Text} {captures : List Capture}

theorem exists_site_of_fits (fits : trainingSite.Fits before covered after captures) :
    ∃ site : TrainingSite, covered = site.address := by
  obtain rfl := captures_eq_nil (by decide) fits
  obtain ⟨_, _, rfl, toHost, isRoot⟩ := fits.peel (by decide)
  obtain ⟨_, host, rfl, toColon, isHost⟩ := toHost.peel (by decide)
  obtain ⟨_, _, rfl, toScheme, colon⟩ := toColon.peel (by decide)
  obtain ⟨_, scheme, rfl, http, isScheme⟩ := toScheme.peel (by decide)
  simp only [Fits, fits_literal, fits_optional_literal, and_true] at http isScheme colon isHost isRoot
  rw [http, colon, isRoot]
  cases isScheme with
  | inl secure =>
    cases isHost with
    | inl main => exact ⟨⟨true, false⟩, by rw [secure, main]; rfl⟩
    | inr mirror => exact ⟨⟨true, true⟩, by rw [secure, mirror]; rfl⟩
  | inr plain =>
    cases isHost with
    | inl main => exact ⟨⟨false, false⟩, by rw [plain, main]; rfl⟩
    | inr mirror => exact ⟨⟨false, true⟩, by rw [plain, mirror]; rfl⟩

theorem exists_path_of_fits {word : Text}
    (fits : (trainingSite ++ Pattern.group 2 (.longest inPagePath ++ literal word)).Fits
      before covered after captures) :
    ∃ (site : TrainingSite) (stem : Text), covered = site.address ++ (stem ++ word) ∧
      (∀ c ∈ stem, c ≠ '(' ∧ c ≠ ')' ∧ isBlankChar c = false) ∧
      captures = [⟨2, width (before ++ site.address),
        width (before ++ site.address ++ (stem ++ word))⟩] := by
  obtain ⟨_, _, _, _, rfl, rfl, isSite, _, rfl, stem, _, _, _, rfl, rfl, isStem, isWord⟩ := fits
  obtain rfl := captures_eq_nil (by decide) isSite
  obtain ⟨site, rfl⟩ := exists_site_of_fits isSite
  obtain ⟨rfl, rfl⟩ := (fits_literal _ _ _ _ _).mp isWord
  obtain ⟨inPath, rfl⟩ := isStem
  refine ⟨site, stem, rfl, ?_, rfl⟩
  intro c member
  simpa [inPagePath, and_assoc] using inPath c member

theorem fits_parenthesised {body : Pattern}
    (fits : (literal "(" ++ Pattern.group 1 body ++ literal ")").Fits before covered after captures) :
    ∃ inner captured, covered = '(' :: (inner ++ [')']) ∧
      body.Fits (before ++ ['(']) inner (')' :: after) captured ∧
      captures =
        ⟨1, width (before ++ ['(']), width (before ++ ['('] ++ inner)⟩ :: captured := by
  obtain ⟨_, _, _, _, rfl, rfl, ⟨_, inner, _, _, rfl, rfl, opening, captured, rfl, isBody⟩, closing⟩ :=
    fits
  obtain ⟨rfl, rfl⟩ := (fits_literal _ _ _ _ _).mp opening
  obtain ⟨rfl, rfl⟩ := (fits_literal _ _ _ _ _).mp closing
  exact ⟨inner, captured, rfl, isBody, by simp⟩

end Pattern

namespace PageKind

variable {kind : PageKind} {before covered after : Text} {captures : List Capture}

theorem exists_parts_of_fits (fits : kind.pattern.Fits before covered after captures) :
    ∃ (site : TrainingSite) (stem : Text),
      covered = '(' :: (site.address ++ (stem ++ kind.word) ++ kind.suffix ++ [')']) ∧
      (∀ c ∈ stem, c ≠ '(' ∧ c ≠ ')' ∧ isBlankChar c = false) ∧
      captures = [
        ⟨1, width (before ++ ['(']),
          width (before ++ ['('] ++ (site.address ++ (stem ++ kind.word) ++ kind.suffix))⟩,
        ⟨2, width (before ++ ['('] ++ site.address),
          width (before ++ ['('] ++ site.address ++ (stem ++ kind.word))⟩] := by
  cases kind with
  | slides =>
    have whole : (Pattern.literal "(" ++ Pattern.group 1 (Pattern.trainingSite ++
      Pattern.group 2 (.longest Pattern.inPagePath ++ Pattern.literal (word .slides))) ++
        Pattern.literal ")").Fits before covered after captures := fits
    obtain ⟨inner, captured, rfl, isBody, rfl⟩ := Pattern.fits_parenthesised whole
    obtain ⟨site, stem, rfl, plain, rfl⟩ := Pattern.exists_path_of_fits isBody
    have noSuffix : suffix .slides = [] := rfl
    rw [noSuffix]
    refine ⟨site, stem, ?_, plain, ?_⟩
    · rw [List.append_nil]
    · rw [List.append_nil]
  | tutorial =>
    have whole : (Pattern.literal "(" ++ Pattern.group 1 (Pattern.trainingSite ++
      Pattern.group 2 (.longest Pattern.inPagePath ++ Pattern.literal (word .tutorial)) ++
        Pattern.literal (suffix .tutorial)) ++
        Pattern.literal ")").Fits before covered after captures := fits
    obtain ⟨inner, captured, rfl, isBody, rfl⟩ := Pattern.fits_parenthesised whole
    obtain ⟨_, _, _, _, rfl, rfl, toPage, isSuffix⟩ := isBody
    obtain ⟨site, stem, rfl, plain, rfl⟩ := Pattern.exists_path_of_fits toPage
    obtain ⟨rfl, rfl⟩ := (Pattern.fits_literal _ _ _ _ _).mp isSuffix
    exact ⟨site, stem, rfl, plain, rfl⟩

theorem exists_address_of_fits (fits : kind.pattern.Fits before covered after captures) :
    ∃ address : TrainingAddress, address.kind = kind ∧ covered = '(' :: (address.url ++ [')']) ∧
      ∀ lineIndex start stop, kind.report
          ⟨lineIndex, before ++ covered ++ after, ⟨start, stop, captures⟩⟩ =
        some ⟨⟨lineIndex, before ++ covered ++ after, width (before ++ ['(']),
          width (before ++ ['('] ++ address.url)⟩, Rule.externalLinkMessage,
          some (Rule.internalLink address.linkedPath)⟩ := by
  obtain ⟨site, stem, rfl, plain, rfl⟩ := exists_parts_of_fits fits
  have isUrl : site.address ++ (stem ++ kind.word) ++ kind.suffix =
      TrainingAddress.url ⟨kind, site, stem, plain⟩ := by
    simp only [TrainingAddress.url, TrainingAddress.path, ← kind.word_suffix, List.append_assoc]
  refine ⟨⟨kind, site, stem, plain⟩, rfl, by rw [isUrl], ?_⟩
  intro lineIndex start stop
  rw [report, Occurrence.group_eq (before ++ ['('] ++ site.address) (stem ++ kind.word)
    (kind.suffix ++ ')' :: after) rfl (by simp), Occurrence.replaceGroup?,
    Occurrence.groupSpan?_eq rfl, isUrl, TrainingAddress.linkedPath, ← kind.word_extension,
    List.append_assoc]
  rfl

end PageKind

structure Diagnostic.Internalizes (diagnostic : Diagnostic) (address : TrainingAddress)
    (lineIndex : Nat) (line head tail : Text) : Prop where
  parts : line = head ++ '(' :: (address.url ++ ')' :: tail)
  range : diagnostic.range = ⟨⟨lineIndex + 1, width head + 2⟩,
    ⟨lineIndex + 1, width head + 2 + width address.url⟩⟩
  suggestion : diagnostic.suggestion =
    some ⟨Rule.internalLink address.linkedPath, diagnostic.range⟩

theorem TrainingAddress.range_eq (address : TrainingAddress) (lineIndex : Nat)
    {line head tail : Text} (parts : line = head ++ '(' :: (address.url ++ ')' :: tail)) :
    Span.range ⟨lineIndex, line, width (head ++ ['(']), width (head ++ ['('] ++ address.url)⟩ =
      ⟨⟨lineIndex + 1, width head + 2⟩,
        ⟨lineIndex + 1, width head + 2 + width address.url⟩⟩ := by
  have one : '('.utf8Size = 1 := by decide
  have one' : ')'.utf8Size = 1 := by decide
  have inside : ¬width (head ++ ['('] ++ address.url) = width line := by
    simp only [parts, width_append, width_cons, width_nil]
    omega
  rw [Span.range, if_neg inside]
  simp only [width_append, width_cons, width_nil, one, Nat.add_right_comm _ (width address.url)]

theorem PageKind.internalizes_of_mem_check {kind : PageKind} {page : Page} {diagnostic : Diagnostic}
    (reported : diagnostic ∈ kind.rule.check page) :
    ∃ (address : TrainingAddress) (lineIndex : Nat) (line head tail : Text),
      address.kind = kind ∧ page.lines[lineIndex]? = some line ∧
      diagnostic.Internalizes address lineIndex line head tail := by
  obtain ⟨finding, found, rfl⟩ := List.mem_map.mp reported
  rw [findings_eq] at found
  obtain ⟨lineIndex, head, _, tail, _, present, fits, isFinding⟩ :=
    Pattern.exists_fit_of_mem_filterMap found
  obtain ⟨address, isKind, rfl, finds⟩ := exists_address_of_fits fits
  rw [finds] at isFinding
  obtain rfl := Option.some.inj isFinding
  have parts : head ++ '(' :: (address.url ++ [')']) ++ tail =
      head ++ '(' :: (address.url ++ ')' :: tail) := by simp
  have range := address.range_eq lineIndex parts
  refine ⟨address, lineIndex, _, head, tail, isKind, present, parts, ?_, ?_⟩
  · rw [Rule.diagnose_eq]
    exact range
  · rw [Rule.diagnose_eq]
    simp only [range, Range.spansLineBreak, Option.map_some, Nat.lt_irrefl, decide_false,
      Bool.false_and, Bool.false_eq_true, if_false]

theorem Edit.applyAll_pair {source front one between other behind : Text} {early late : Edit}
    (whole : source = front ++ one ++ between ++ other ++ behind)
    (start : early.start = width front) (stop : early.stop = width (front ++ one))
    (start' : late.start = width (front ++ one ++ between))
    (stop' : late.stop = width (front ++ one ++ between ++ other))
    (before : early.start < late.start) {edits : List Edit} (listed : edits.Perm [early, late]) :
    Edit.applyAll source edits =
      some ⟨front ++ early.text ++ between ++ late.text ++ behind, 2, 0⟩ := by
  have order : lastFirst edits = [late, early] := by
    rw [lastFirst_eq_of_perm (by simp [Nat.ne_of_gt before]) (listed.trans (.swap _ _ _)),
      lastFirst_eq_self _ (by simp [Nat.le_of_lt before])]
  have first := Progress.step_apply ⟨source, [], 0, 0⟩ late whole start' stop'
  have second := Progress.step_apply ⟨front ++ one ++ between, late.text ++ behind ++ [], 1, 0⟩ early
    rfl start stop
  simp only [applyAll, order, List.foldlM_cons, List.foldlM_nil, Option.bind_eq_bind, first, second,
    Option.bind_some, Option.pure_def]
  simp

section Applied

variable {source : Text} {above below : List Line} {line : Line}

theorem Diagnostic.Internalizes.placed {diagnostic : Diagnostic} {address : TrainingAddress}
    {head tail : Text} (lines : linesOf source = above ++ line :: below)
    (internalizes : diagnostic.Internalizes address above.length line.text head tail) :
    ∃ edit : Edit, diagnostic.suggestion.bind (Edit.ofSuggestion? source) = some edit ∧
      edit.start = width (above.flatMap Line.source ++ (head ++ ['('])) ∧
      edit.stop = width (above.flatMap Line.source ++ (head ++ ['(']) ++ address.url) ∧
      edit.text = Rule.internalLink address.linkedPath := by
  have parts : line.text = head ++ ['('] ++ address.url ++ ')' :: tail := by
    simp [internalizes.parts]
  have noFeed : (Rule.internalLink address.linkedPath).getLast? ≠ some '\n' := by
    rw [Rule.internalLink_eq, List.getLast?_append_of_ne_nil _ (by simp)]
    decide
  have toPiece := Piece.ofSuggestion?_piece
    ⟨above, line, below, head ++ ['('], address.url, ')' :: tail, lines, parts⟩
    (Rule.internalLink address.linkedPath)
  rw [Edit.adaptEnding_of_no_feed _ _ noFeed] at toPiece
  refine ⟨⟨_, _, Rule.internalLink address.linkedPath⟩, ?_, rfl, rfl, rfl⟩
  rw [internalizes.suggestion, Option.bind_some, internalizes.range,
    ← address.range_eq above.length internalizes.parts]
  simpa [Piece.span, Piece.front, Piece.replaced, Piece.swallowed] using toPiece

theorem Edit.ofDiagnostics_pair {one other : Diagnostic} {edit edit' : Edit}
    (placed : one.suggestion.bind (Edit.ofSuggestion? source) = some edit)
    (placed' : other.suggestion.bind (Edit.ofSuggestion? source) = some edit') :
    Edit.ofDiagnostics source [one, other] = ([edit, edit'], 0) := by
  obtain ⟨suggestion, suggested, isEdit⟩ := Option.bind_eq_some_iff.mp placed
  obtain ⟨suggestion', suggested', isEdit'⟩ := Option.bind_eq_some_iff.mp placed'
  simp [Edit.ofDiagnostics, suggested, isEdit, suggested', isEdit']

theorem Diagnostic.Internalizes.column_lt {first second : Diagnostic}
    {left right : TrainingAddress} {lineIndex : Nat} {text front between behind tail : Text}
    (internalizes : first.Internalizes left lineIndex text front tail)
    (internalizes' : second.Internalizes right lineIndex text
      (front ++ '(' :: (left.url ++ ')' :: between)) behind) :
    first.range.stop.column < second.range.start.column := by
  have opens := '('.utf8Size_pos
  rw [internalizes.range, internalizes'.range]
  simp only [width_append, width_cons]
  omega

theorem Diagnostic.Internalizes.repair_pair {first second : Diagnostic}
    {left right : TrainingAddress} {front between behind tail : Text}
    (lines : linesOf source = above ++ line :: below)
    (tail_eq : tail = between ++ '(' :: (right.url ++ ')' :: behind))
    (internalizes : first.Internalizes left above.length line.text front tail)
    (internalizes' : second.Internalizes right above.length line.text
      (front ++ '(' :: (left.url ++ ')' :: between)) behind) :
    let repaired : Repair := ⟨((linesOf source).set above.length
      ⟨front ++ '(' :: (Rule.internalLink left.linkedPath ++ ')' :: (between ++
        '(' :: (Rule.internalLink right.linkedPath ++ ')' :: behind))), line.ending⟩).flatMap
        Line.source, 2, 0⟩
    repair source [first, second] = some (repaired, 0) ∧
      repair source [second, first] = some (repaired, 0) := by
  intro repaired
  obtain ⟨early, placed, start, stop, text⟩ := internalizes.placed lines
  obtain ⟨late, placed', start', stop', text'⟩ := internalizes'.placed lines
  have front_eq : above.flatMap Line.source ++ (front ++ '(' :: (left.url ++ ')' :: between) ++ ['(']) =
      above.flatMap Line.source ++ (front ++ ['(']) ++ left.url ++ (')' :: (between ++ ['('])) := by
    simp
  rw [front_eq] at start' stop'
  have whole : source = above.flatMap Line.source ++ (front ++ ['(']) ++ left.url ++
      (')' :: (between ++ ['('])) ++ right.url ++
        (')' :: (behind ++ (line.ending.text ++ below.flatMap Line.source))) := by
    conv => lhs; rw [← flatMap_source_linesOf source, lines]
    simp [Line.source, internalizes.parts, tail_eq]
  have before : early.start < late.start := by
    have closes := ')'.utf8Size_pos
    rw [start, start']
    simp only [width_append, width_cons]
    omega
  have rewritten : ⟨above.flatMap Line.source ++ (front ++ ['(']) ++ early.text ++
      (')' :: (between ++ ['('])) ++ late.text ++
        (')' :: (behind ++ (line.ending.text ++ below.flatMap Line.source))), 2, 0⟩ = repaired := by
    simp [repaired, lines, Line.source, text, text']
  have applied {edits : List Edit} (listed : edits.Perm [early, late]) :
      Edit.applyAll source edits = some repaired :=
    rewritten ▸ Edit.applyAll_pair whole start stop start' stop' before listed
  constructor
  · exact repair_eq (Edit.ofDiagnostics_pair placed placed') (applied (.refl _))
  · exact repair_eq (Edit.ofDiagnostics_pair placed' placed) (applied (.swap _ _ _))

theorem external_links_lie_apart (page : Page) (pageLines : page.lines = splitLines source) :
    (∀ (kind : PageKind), ∀ diagnostic ∈ kind.rule.check page,
      ∃ (address : TrainingAddress) (lineIndex : Nat) (line head tail : Text),
        address.kind = kind ∧ page.lines[lineIndex]? = some line ∧
        diagnostic.Internalizes address lineIndex line head tail) ∧
    ∀ (kind kind' : PageKind), kind ≠ kind' →
      ∀ one ∈ kind.rule.check page, ∀ other ∈ kind'.rule.check page,
        one.range.start.line = other.range.start.line →
        ∃ (lineIndex : Nat) (line : Line) (first second : Diagnostic) (left right : TrainingAddress)
          (front between behind : Text),
          (linesOf source)[lineIndex]? = some line ∧
          line.text = front ++ '(' :: (left.url ++ ')' :: (between ++
            '(' :: (right.url ++ ')' :: behind))) ∧
          [first, second].Perm [one, other] ∧ left.kind ≠ right.kind ∧
          first ∈ left.kind.rule.check page ∧ second ∈ right.kind.rule.check page ∧
          first.Internalizes left lineIndex line.text front
            (between ++ '(' :: (right.url ++ ')' :: behind)) ∧
          second.Internalizes right lineIndex line.text
            (front ++ '(' :: (left.url ++ ')' :: between)) behind ∧
          first.range.stop.column < second.range.start.column ∧
          repair source [one, other] = some
            (⟨((linesOf source).set lineIndex
              ⟨front ++ '(' :: (Rule.internalLink left.linkedPath ++ ')' :: (between ++
                '(' :: (Rule.internalLink right.linkedPath ++ ')' :: behind))),
                line.ending⟩).flatMap Line.source, 2, 0⟩, 0) := by
  constructor
  · intro kind diagnostic reported
    exact PageKind.internalizes_of_mem_check reported
  · intro kind kind' different one reported other reported' sameLine
    obtain ⟨address, lineIndex, text, head, tail, rfl, present, internalizes⟩ :=
      PageKind.internalizes_of_mem_check reported
    obtain ⟨address', lineIndex', text', head', tail', rfl, present', internalizes'⟩ :=
      PageKind.internalizes_of_mem_check reported'
    obtain rfl : lineIndex = lineIndex' := by
      simpa [internalizes.range, internalizes'.range] using sameLine
    obtain rfl : text = text' := Option.some.inj (present.symm.trans present')
    have same := internalizes.parts.symm.trans internalizes'.parts
    have arranged := enclosed_same_or_apart (by decide) address.no_open_url address.no_close_url
      address'.no_open_url address'.no_close_url same
    have inSource := present
    rw [pageLines, splitLines, List.getElem?_map] at inSource
    obtain ⟨line, isLine, rfl⟩ := Option.map_eq_some_iff.mp inSource
    obtain ⟨piece, rfl, rfl, -, -, -⟩ := exists_piece [] line.text [] isLine (by simp)
    have lines := piece.lines_eq
    rcases arranged with sameUrl | ⟨gap, rfl, rfl⟩ | ⟨gap, rfl, rfl⟩
    · exact absurd (TrainingAddress.kind_eq_of_url_eq sameUrl) different
    · exact ⟨_, _, one, other, address, address', head, gap, tail', isLine, internalizes.parts,
        .refl _, different, reported, reported', internalizes, internalizes',
        internalizes.column_lt internalizes', (internalizes.repair_pair lines rfl internalizes').1⟩
    · exact ⟨_, _, other, one, address', address, head', gap, tail, isLine, internalizes'.parts,
        .swap _ _ _, different.symm, reported', reported, internalizes', internalizes,
        internalizes'.column_lt internalizes, (internalizes'.repair_pair lines rfl internalizes).2⟩

end Applied

def linkedTwiceText : Text :=
  "é\n(https://training.galaxyproject.org/training-material/x/tutorial.html)" ++
    "(http://galaxyproject.github.io/training-material/tutorialslides.html).\r\n"

def linkedTwicePage : Page := ⟨"tutorial.md", splitLines linkedTwiceText, [], fun _ => false⟩

theorem external_links_lie_apart_linkedTwice :
    ∃ slides tutorial : Diagnostic,
      slides ∈ PageKind.slides.rule.check linkedTwicePage ∧
      tutorial ∈ PageKind.tutorial.rule.check linkedTwicePage ∧
      slides.range = ⟨⟨2, 72⟩, ⟨2, 140⟩⟩ ∧ tutorial.range = ⟨⟨2, 2⟩, ⟨2, 70⟩⟩ ∧
      ∃ (lineIndex : Nat) (line : Line) (first second : Diagnostic) (left right : TrainingAddress)
        (front between behind : Text),
        (linesOf linkedTwiceText)[lineIndex]? = some line ∧
        [first, second].Perm [slides, tutorial] ∧ left.kind ≠ right.kind ∧
        first.range.stop.column < second.range.start.column ∧
        repair linkedTwiceText [slides, tutorial] = some
          (⟨((linesOf linkedTwiceText).set lineIndex
            ⟨front ++ '(' :: (Rule.internalLink left.linkedPath ++ ')' :: (between ++
              '(' :: (Rule.internalLink right.linkedPath ++ ')' :: behind))),
              line.ending⟩).flatMap Line.source, 2, 0⟩, 0) ∧
        repair linkedTwiceText [slides, tutorial] = some
          (⟨("é\n(\x7b% link x/tutorial.md %\x7d)" ++
            "(\x7b% link tutorialslides.html %\x7d).\r\n").toList, 2, 0⟩, 0) := by
  have slidesAt : (PageKind.slides.rule.check linkedTwicePage).map Diagnostic.range =
      [⟨⟨2, 72⟩, ⟨2, 140⟩⟩] := by decide +kernel
  have tutorialAt : (PageKind.tutorial.rule.check linkedTwicePage).map Diagnostic.range =
      [⟨⟨2, 2⟩, ⟨2, 70⟩⟩] := by decide +kernel
  have repaired : repair linkedTwiceText (PageKind.slides.rule.check linkedTwicePage ++
      PageKind.tutorial.rule.check linkedTwicePage) = some
        (⟨("é\n(\x7b% link x/tutorial.md %\x7d)" ++
          "(\x7b% link tutorialslides.html %\x7d).\r\n").toList, 2, 0⟩, 0) := by
    decide +kernel
  obtain ⟨slides, onlySlides, slidesRange⟩ := List.map_eq_singleton_iff.mp slidesAt
  obtain ⟨tutorial, onlyTutorial, tutorialRange⟩ := List.map_eq_singleton_iff.mp tutorialAt
  rw [onlySlides, onlyTutorial] at repaired
  have isSlides : slides ∈ PageKind.slides.rule.check linkedTwicePage := by simp [onlySlides]
  have isTutorial : tutorial ∈ PageKind.tutorial.rule.check linkedTwicePage := by simp [onlyTutorial]
  have sameLine : slides.range.start.line = tutorial.range.start.line := by
    rw [slidesRange, tutorialRange]
  obtain ⟨lineIndex, line, first, second, left, right, front, between, behind, isLine, -, order, kinds,
    -, -, -, -, apart, result⟩ := (external_links_lie_apart linkedTwicePage rfl).2 .slides .tutorial
      (by decide) slides isSlides tutorial isTutorial sameLine
  exact ⟨slides, tutorial, isSlides, isTutorial, slidesRange, tutorialRange, lineIndex, line, first,
    second, left, right, front, between, behind, isLine, order, kinds, apart, result, repaired⟩

end CourseLint
