import CourseLint.Proofs.CaseFolding
import CourseLint.Proofs.Cuts
import CourseLint.Proofs.LeftToRight
import CourseLint.Proofs.LineLocality

set_option autoImplicit false

namespace CourseLint

open Text

structure SnippetCall where
  gap : Text
  word : Text
  space : Text
  path : Text
  blankGap : ∀ c ∈ gap, isBlankChar c = true
  reads : ReadsAs "snippet" word
  space_ne_nil : space ≠ []
  blankSpace : ∀ c ∈ space, isBlankChar c = true
  path_ne_nil : path ≠ []
  plain : ∀ c ∈ path, Pattern.inSnippetPath c = true

namespace SnippetCall

def front (call : SnippetCall) : Text := ['{', '%'] ++ call.gap ++ call.word ++ call.space

variable (call : SnippetCall)

theorem not_blank_head_word (back : Text) :
    ∀ c ∈ (call.word ++ back).head?, isBlankChar c = false := by
  obtain ⟨c, rest, folds, -, opens⟩ := List.forall₂_cons_left_iff.mp call.reads
  have folded : Casing.foldChar c = 's' := (Casing.foldChar_eq_iff (by decide) c).mpr folds
  have form : c ∈ Casing.caseForms := Casing.mem_caseForms (folded ▸ by decide)
  simpa [opens] using not_blank_of_mem_caseForms form

theorem not_blank_head_path (back : Text) :
    ∀ c ∈ (call.path ++ back).head?, isBlankChar c = false := by
  obtain ⟨c, rest, opens⟩ := List.exists_cons_of_ne_nil call.path_ne_nil
  have plain := call.plain c (by simp [opens])
  simp only [Pattern.inSnippetPath, Bool.and_eq_true, Bool.not_eq_true'] at plain
  simpa [opens] using plain.1

def form : Form SnippetCall where
  text call := call.front ++ call.path
  Behind after := ∀ c ∈ after.head?, Pattern.inSnippetPath c = false
  nonempty call := by simp [front]
  determined := by
    intro call call' after after' ends ends' same
    have fromGap : call.gap ++ (call.word ++ (call.space ++ (call.path ++ after))) =
        call'.gap ++ (call'.word ++ (call'.space ++ (call'.path ++ after'))) := by
      simpa [front] using same
    obtain ⟨sameGap, fromWord⟩ := cut_behind_run call.blankGap call'.blankGap
      (call.not_blank_head_word _) (call'.not_blank_head_word _) fromGap
    have level : call.word.length = call'.word.length :=
      call.reads.length_eq.symm.trans call'.reads.length_eq
    obtain ⟨sameWord, fromSpace⟩ := List.append_inj fromWord level
    obtain ⟨sameSpace, fromPath⟩ := cut_behind_run call.blankSpace call'.blankSpace
      (call.not_blank_head_path _) (call'.not_blank_head_path _) fromSpace
    obtain ⟨samePath, -⟩ := cut_behind_run call.plain call'.plain ends ends' fromPath
    cases call
    cases call'
    simp_all

def groups (sighting : Sighting SnippetCall) : List Capture :=
  let front := sighting.before ++ sighting.piece.front
  [⟨1, width front, width (front ++ sighting.piece.path)⟩]

theorem readBy : form.ReadBy Pattern.snippet groups := by
  intro before covered after captures
  constructor
  · intro fits
    obtain ⟨_, path, _, _, rfl, rfl, toPath, _, rfl, isPath⟩ := fits
    obtain ⟨_, space, rfl, toSpace, isSpace⟩ := toPath.peel (by decide)
    obtain ⟨_, word, rfl, toWord, isWord⟩ := toSpace.peel (by decide)
    obtain ⟨opening, gap, rfl, isOpening, isGap⟩ := toWord.peel (by decide)
    obtain ⟨rfl, rfl⟩ := (Pattern.fits_literal _ _ _ _ _).mp isOpening
    obtain ⟨blankGap, -⟩ := (Pattern.fits_whole _).mp isGap
    obtain ⟨reads, -⟩ := (Pattern.fits_anyCase_iff _).mp isWord
    obtain ⟨space_ne_nil, blankSpace, -⟩ := (Pattern.fits_wholeOne _).mp isSpace
    obtain ⟨path_ne_nil, plain, ends, rfl⟩ := (Pattern.fits_wholeOne _).mp isPath
    exact ⟨⟨gap, word, space, path, blankGap, reads, space_ne_nil, blankSpace, path_ne_nil, plain⟩,
      rfl, ends, rfl⟩
  · intro parts
    obtain ⟨call, rfl, ends, rfl⟩ := parts
    have opening : Pattern.callOpen.Fits before ['{', '%']
        (call.gap ++ (call.word ++ (call.space ++ (call.path ++ after)))) [] :=
      Pattern.fits_word _ _ _
    have isGap : Pattern.blanks.Fits (before ++ ['{', '%']) call.gap
        (call.word ++ (call.space ++ (call.path ++ after))) [] :=
      (Pattern.fits_whole _).mpr ⟨call.blankGap, call.not_blank_head_word _, rfl⟩
    have isWord : (Pattern.anyCase "snippet").Fits (before ++ (['{', '%'] ++ call.gap)) call.word
        (call.space ++ (call.path ++ after)) [] :=
      (Pattern.fits_anyCase_iff _).mpr ⟨call.reads, rfl⟩
    have isSpace : Pattern.blanksOne.Fits (before ++ (['{', '%'] ++ call.gap ++ call.word))
        call.space (call.path ++ after) [] :=
      (Pattern.fits_wholeOne _).mpr
        ⟨call.space_ne_nil, call.blankSpace, call.not_blank_head_path _, rfl⟩
    have isPath : (Pattern.wholeOne Pattern.inSnippetPath).Fits (before ++ call.front) call.path
        after [] :=
      (Pattern.fits_wholeOne _).mpr ⟨call.path_ne_nil, call.plain, ends, rfl⟩
    have toPath := ((opening.append isGap).append isWord).append isSpace
    exact toPath.append (isPath.grouped 1)

theorem group_path {lineIndex : Nat} {line after : Text} {sighting : Sighting SnippetCall}
    (whole : line = sighting.before ++ form.text sighting.piece ++ after) :
    Occurrence.group ⟨lineIndex, line, form.matchOf groups sighting⟩ 1 = sighting.piece.path := by
  apply Occurrence.group_eq (sighting.before ++ sighting.piece.front) sighting.piece.path after
  case capture => rfl
  case parts => simp [whole, form]

end SnippetCall

theorem SnippetCall.firstOccurrences_eq {line : Text} {calls : List (Sighting SnippetCall)}
    (isMet : form.MetOn line calls) :
    Pattern.snippet.firstOccurrences [line] =
      (calls.head?.map fun call => ⟨0, line, form.matchOf groups call⟩).toList := by
  rw [Pattern.firstOccurrences, readBy.firstOccurrencesWhere_eq isMet fun _ => true]
  · cases calls <;> rfl
  · exact fun _ _ _ => rfl

namespace Rule

open SnippetCall (form)

def absentMessage (path : Text) : Text := "This snippet (" ++ path ++ ") does not seem to exist"

theorem findings_missingSnippet (page : Page) :
    missingSnippet.findings page =
      ((Pattern.snippet.firstOccurrences page.lines).filter fun occurrence =>
        !page.fileExists (occurrence.group 1)).map fun occurrence =>
          occurrence.advise (absentMessage (occurrence.group 1)) := rfl

variable (page : Page) {lineIndex : Nat} {line : Text} {calls : List (Sighting SnippetCall)}

theorem findings_missingSnippet_line (isMet : form.MetOn line calls) :
    missingSnippet.findings { page with lines := [line] } =
      ((calls.head?.filter fun call => !page.fileExists call.piece.path).map fun call =>
        ⟨form.spanOf 0 line call, absentMessage call.piece.path, none⟩).toList := by
  rw [findings_missingSnippet, SnippetCall.firstOccurrences_eq isMet]
  cases first : calls.head? with
  | none => rfl
  | some call =>
    obtain ⟨after, whole⟩ := isMet.exists_after (List.mem_of_head? first)
    have path : Occurrence.group ⟨0, line, form.matchOf SnippetCall.groups call⟩ 1 =
        call.piece.path := SnippetCall.group_path whole
    cases probed : page.fileExists call.piece.path with
    | true => simp [path, probed]
    | false =>
      simp only [Option.map_some, Option.toList_some, List.filter_singleton, path, probed,
        Option.filter_some, Bool.not_false, cond_true, List.map_singleton, if_true]
      rfl

theorem check_missingSnippet_atLine (present : page.lines[lineIndex]? = some line)
    (isMet : form.MetOn line calls) :
    (missingSnippet.check page).filter (·.range.start.line == lineIndex + 1) =
      ((calls.head?.filter fun call => !page.fileExists call.piece.path).map fun call =>
        missingSnippet.diagnose page.path
          ⟨form.spanOf lineIndex line call, absentMessage call.piece.path, none⟩).toList := by
  have builtin : missingSnippet ∈ Registry.builtinRules := by simp [Registry.builtinRules]
  rw [check_atLine builtin rfl (by decide) page present, findings_missingSnippet_line page isMet]
  cases calls.head?.filter fun call => !page.fileExists call.piece.path with
  | none => rfl
  | some call => simp [Finding.shift, Span.shift, Form.spanOf]

theorem missingSnippet_reports_first_call (present : page.lines[lineIndex]? = some line) :
    ∃ calls, (∀ met, form.MetOn line met ↔ met = calls) ∧
      (Pattern.snippet.occurrences lineIndex line).map
          (fun occurrence => (occurrence.span, occurrence.group 1)) =
        calls.map (fun call => (form.spanOf lineIndex line call, call.piece.path)) ∧
      (missingSnippet.check page).filter (·.range.start.line == lineIndex + 1) =
        ((calls.head?.filter fun call => !page.fileExists call.piece.path).map fun call =>
          missingSnippet.diagnose page.path
            ⟨form.spanOf lineIndex line call, absentMessage call.piece.path, none⟩).toList ∧
      (((missingSnippet.check page).filter (·.range.start.line == lineIndex + 1) ≠ [] ↔
          ∃ call ∈ calls, page.fileExists call.piece.path = false) ↔
        ¬ ∃ first later, calls = first :: later ∧ page.fileExists first.piece.path = true ∧
          ∃ call ∈ later, page.fileExists call.piece.path = false) := by
  obtain ⟨calls, isMet, -⟩ := SnippetCall.readBy.exists_met line
  rw [check_missingSnippet_atLine page present isMet]
  refine ⟨calls, ?_, ?_, rfl, ?_⟩
  · exact fun met => isMet.iff_eq
  · apply SnippetCall.readBy.occurrences_map_eq isMet SnippetCall.path
    exact fun _ _ whole => SnippetCall.group_path whole
  · cases calls with
    | nil => simp
    | cons first later =>
      cases probed : page.fileExists first.piece.path <;> simp [Option.filter_some, probed]

def twoSnippets : Text := "\x7b% snippet a.md %\x7d \x7b% snippet b.md %\x7d"

theorem missingSnippet_reports_first_of_two :
    ["intro".toList, twoSnippets][1]? = some twoSnippets ∧
    (∃ calls, form.MetOn twoSnippets calls ∧
      calls.map (fun call => (form.spanOf 1 twoSnippets call, call.piece.path)) =
        [(⟨1, twoSnippets, 0, 15⟩, "a.md".toList), (⟨1, twoSnippets, 19, 34⟩, "b.md".toList)]) ∧
    (missingSnippet.check ⟨"tutorial.md", ["intro".toList, twoSnippets], [], fun _ => false⟩).map
      (fun diagnostic => (diagnostic.range, diagnostic.message)) =
        [(⟨⟨2, 1⟩, ⟨2, 16⟩⟩, "This snippet (a.md) does not seem to exist".toList)] := by
  have present : ["intro".toList, twoSnippets][1]? = some twoSnippets := rfl
  obtain ⟨calls, isMet, pieces, -⟩ := missingSnippet_reports_first_call
    ⟨"tutorial.md", ["intro".toList, twoSnippets], [], fun _ => false⟩ present
  refine ⟨present, ⟨calls, (isMet calls).mpr rfl, ?_⟩, ?_⟩
  · exact pieces.symm.trans (by decide +kernel)
  · decide +kernel

theorem existing_snippet_hides_missing_one :
    (Pattern.snippet.occurrences 0 twoSnippets).map (·.group 1) = ["a.md".toList, "b.md".toList] ∧
    ("a.md".toList == "a.md".toList) = true ∧ ("b.md".toList == "a.md".toList) = false ∧
    missingSnippet.check ⟨"tutorial.md", [twoSnippets], [], (· == "a.md".toList)⟩ = [] := by
  decide +kernel

end Rule

end CourseLint
