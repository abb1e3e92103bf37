import CourseLint.Proofs.Suggestions

set_option autoImplicit false

namespace CourseLint

open Text

namespace Edit

variable {source : Text}

structure Rewriting (source : Text) (edit : Edit) (text result : Text) where
  piece : Piece source
  replacement : Text
  behind : Text
  edit_eq : edit = piece.edit replacement
  text_eq : text = piece.front ++ piece.covered ++ behind
  result_eq : result = piece.front ++ replacement ++ behind
  rewrites : Rewrites piece.head piece.covered piece.tail replacement
  feed : behind.head? = some '\n' → piece.tail = [] ∧ piece.line.ending = .lineFeed
  brace : piece.covered = [] → behind.head? ≠ some '}'

inductive Rewritten (source : Text) : List Edit → Text → Text → Prop where
  | nil (text : Text) : Rewritten source [] text text
  | cons {edit : Edit} {edits : List Edit} {text middle result : Text}
      (first : Rewriting source edit text middle) (rest : Rewritten source edits middle result) :
      Rewritten source (edit :: edits) text result

structure Progress.Sound (source : Text) (pending : List Edit) (progress : Progress) : Prop where
  within : progress.untouched <+: source
  no_feed : progress.finished.head? ≠ some '\n'
  at_end : progress.finished = [] ∨ ∀ edit ∈ pending, edit.start < width source

def Progress.text (progress : Progress) : Text := progress.untouched ++ progress.finished

end Edit

namespace Piece

variable {source : Text} (piece : Piece source)

theorem front_prefix : piece.front <+: source :=
  ⟨piece.replaced ++ piece.behind, by rw [← List.append_assoc, ← piece.source_eq]⟩

theorem replaced_prefix : piece.front ++ piece.replaced <+: source :=
  ⟨piece.behind, piece.source_eq.symm⟩

theorem stop_le (replacement : Text) : (piece.edit replacement).stop ≤ width source := by
  have whole := congrArg width piece.source_eq
  rw [width_append] at whole
  change width (piece.front ++ piece.replaced) ≤ width source
  omega

theorem start_le (replacement : Text) :
    (piece.edit replacement).start ≤ (piece.edit replacement).stop := by
  simp [edit]

theorem exists_between {untouched : Text} (within : untouched <+: source)
    (reached : width (piece.front ++ piece.replaced) ≤ width untouched) :
    ∃ between, untouched = piece.front ++ piece.replaced ++ between ∧
      between <+: piece.behind := by
  obtain ⟨between, rfl⟩ := prefix_of_width_le piece.replaced_prefix within reached
  obtain ⟨rest, whole⟩ := within
  have sameText := whole.trans piece.source_eq
  rw [List.append_assoc] at sameText
  exact ⟨between, rfl, rest, List.append_cancel_left sameText⟩

theorem feed_behind {between finished : Text} (isBetween : between <+: piece.behind)
    (noFeed : finished.head? ≠ some '\n')
    (feed : (piece.swallowed ++ between ++ finished).head? = some '\n') :
    piece.tail = [] ∧ piece.line.ending = .lineFeed := by
  by_cases atEnd : piece.tail = []
  · refine ⟨atEnd, ?_⟩
    rw [swallowed, if_pos atEnd] at feed
    cases ending : piece.line.ending with
    | lineFeed => rfl
    | carriageReturnLineFeed => simp [ending, Ending.text] at feed
    | absent =>
      have nothing : between = [] := by
        simpa [behind, atEnd, piece.after_eq_nil ending] using isBetween
      simp [ending, Ending.text, nothing, noFeed] at feed
  · rw [swallowed, if_neg atEnd, List.nil_append] at feed
    cases between with
    | nil => exact absurd feed noFeed
    | cons c between =>
      obtain rfl : c = '\n' := by simpa using feed
      obtain ⟨rest, whole⟩ := isBetween
      cases tail : piece.tail with
      | nil => exact absurd tail atEnd
      | cons d tail' =>
        rw [behind, if_neg atEnd, tail] at whole
        obtain ⟨rfl, -⟩ := List.cons.inj whole
        exact absurd (by simp [tail]) piece.no_feed_tail

theorem brace_behind {between finished : Text} (isBetween : between <+: piece.behind)
    (atEnd : piece.tail = []) (noCovered : piece.covered = [])
    (nothingDone : width piece.front = width source → finished = []) :
    (piece.swallowed ++ between ++ finished).head? ≠ some '}' := by
  rw [swallowed, if_pos atEnd]
  cases ending : piece.line.ending with
  | lineFeed => simp [Ending.text]
  | carriageReturnLineFeed => simp [Ending.text]
  | absent =>
    have whole := piece.source_eq
    have nothing : piece.behind = [] := by simp [behind, atEnd, piece.after_eq_nil ending]
    rw [nothing] at whole isBetween
    have isSource : piece.front = source := by
      simpa [replaced, swallowed, atEnd, ending, Ending.text, noCovered] using whole.symm
    simp [Ending.text, List.prefix_nil.mp isBetween, nothingDone (congrArg width isSource)]

end Piece

namespace Edit

variable {source : Text}

theorem Progress.Sound.step_apply {progress : Progress} {edit : Edit} {pending : List Edit}
    (sound : progress.Sound source (edit :: pending)) (repairs : edit.Repairs source)
    (reached : ¬ width progress.untouched < edit.stop)
    (sorted : ∀ other ∈ pending, other.start ≤ edit.start)
    (apart : ∀ other ∈ pending, edit.Apart source other) :
    ∃ next, progress.step edit = some next ∧ next.Sound source pending ∧
      width next.untouched = edit.start ∧
      Nonempty (Rewriting source edit progress.text next.text) := by
  obtain ⟨piece, replacement, rfl, rewrites⟩ := repairs
  obtain ⟨untouched, finished, applied, skipped⟩ := progress
  obtain ⟨between, rfl, isBetween⟩ := piece.exists_between sound.within (Nat.not_lt.mp reached)
  have stepped := Progress.step_apply ⟨piece.front ++ piece.replaced ++ between, finished, applied,
    skipped⟩ (piece.edit replacement) rfl rfl rfl
  refine ⟨_, stepped, ⟨piece.front_prefix, ?_, ?_⟩, rfl, ⟨?_⟩⟩
  · have begins := rewrites.head?_replacement_append piece.no_feed_covered
      (piece.swallowed ++ (between ++ finished))
    simpa [Piece.edit] using begins
  · -- A second edit at the very end of the source would stand before text that is finished.
    refine .inr fun other member => ?_
    have before := sorted other member
    have alone := apart other member
    have bound := piece.start_le replacement
    have stop := piece.stop_le replacement
    by_cases isLast : (piece.edit replacement).start = width source
    · have elsewhere := alone isLast
      omega
    · omega
  · exact {
      piece := piece
      replacement := replacement
      behind := piece.swallowed ++ between ++ finished
      edit_eq := rfl
      text_eq := by simp [Progress.text, Piece.replaced]
      result_eq := by simp [Progress.text, Piece.edit]
      rewrites := rewrites
      feed := piece.feed_behind isBetween sound.no_feed
      brace := by
        intro noCovered
        refine piece.brace_behind isBetween (rewrites.tail_eq_nil noCovered) noCovered ?_
        intro atEnd
        rcases sound.at_end with nothing | early
        · exact nothing
        · exact absurd atEnd (Nat.ne_of_lt (early (piece.edit replacement) (by simp))) }

theorem Progress.Sound.step_skip {progress : Progress} {edit : Edit} {pending : List Edit}
    (sound : progress.Sound source (edit :: pending))
    (beyond : width progress.untouched < edit.stop) :
    ∃ next, progress.step edit = some next ∧ next.Sound source pending ∧
      next.untouched = progress.untouched ∧ next.text = progress.text := by
  refine ⟨_, progress.step_skip edit beyond, ⟨sound.within, sound.no_feed, ?_⟩, rfl, rfl⟩
  exact sound.at_end.imp_right fun early other member => early other (by simp [member])

theorem Progress.Sound.run {progress : Progress} {edits : List Edit}
    (sound : progress.Sound source edits) (repairs : ∀ edit ∈ edits, edit.Repairs source)
    (sorted : edits.Pairwise fun one other => other.start ≤ one.start)
    (apart : edits.Pairwise (Apart source)) :
    ∃ final, edits.foldlM Progress.step progress = some final ∧
      Rewritten source (kept (width progress.untouched) edits) progress.text final.text := by
  -- The induction carries `Sound`: it says what the finished text may begin with.
  induction edits generalizing progress with
  | nil => exact ⟨progress, rfl, .nil _⟩
  | cons edit edits ih =>
    obtain ⟨sortedFirst, sorted⟩ := List.pairwise_cons.mp sorted
    obtain ⟨apartFirst, apart⟩ := List.pairwise_cons.mp apart
    have repairsRest : ∀ other ∈ edits, other.Repairs source :=
      fun other member => repairs other (by simp [member])
    rw [List.foldlM_cons]
    by_cases beyond : width progress.untouched < edit.stop
    · obtain ⟨next, stepped, soundNext, untouched, sameText⟩ := sound.step_skip beyond
      obtain ⟨final, run, rewritten⟩ := ih soundNext repairsRest sorted apart
      rw [untouched, sameText] at rewritten
      exact ⟨final, by rw [stepped]; exact run, by rwa [kept, if_pos beyond]⟩
    · obtain ⟨next, stepped, soundNext, untouched, ⟨rewriting⟩⟩ :=
        sound.step_apply (repairs edit (by simp)) beyond sortedFirst apartFirst
      obtain ⟨final, run, rewritten⟩ := ih soundNext repairsRest sorted apart
      rw [untouched] at rewritten
      refine ⟨final, by rw [stepped]; exact run, ?_⟩
      rw [kept, if_neg beyond]
      exact .cons rewriting rewritten

end Edit

def Edit.suggested (source : Text) (diagnostics : List Diagnostic) : List Edit :=
  diagnostics.filterMap fun diagnostic => diagnostic.suggestion.bind (Edit.ofSuggestion? source)

section Diagnostics

variable {source : Text} {diagnostics : List Diagnostic}

theorem Edit.suggested_cons_none {diagnostic : Diagnostic} (none : diagnostic.suggestion = none) :
    suggested source (diagnostic :: diagnostics) = suggested source diagnostics :=
  List.filterMap_cons_none (by simp [none])

theorem Edit.suggested_cons_some {diagnostic : Diagnostic} {edit : Edit}
    (placed : diagnostic.suggestion.bind (ofSuggestion? source) = some edit) :
    suggested source (diagnostic :: diagnostics) = edit :: suggested source diagnostics :=
  List.filterMap_cons_some placed

theorem repair_eq {edits : List Edit} {invalid : Nat} {repaired : Repair}
    (ofDiagnostics : Edit.ofDiagnostics source diagnostics = (edits, invalid))
    (result : Edit.applyAll source edits = some repaired) :
    repair source diagnostics = some (repaired, invalid) := by
  simp only [repair, ofDiagnostics, result]
  rfl

theorem Repairable.ofDiagnostics_eq (repairable : Repairable source diagnostics) :
    Edit.ofDiagnostics source diagnostics = (Edit.suggested source diagnostics, 0) := by
  have allPlaced : ∀ suggestion ∈ diagnostics.filterMap Diagnostic.suggestion,
      Edit.ofSuggestion? source suggestion ≠ none := by
    intro suggestion member
    obtain ⟨diagnostic, inList, suggested⟩ := List.mem_filterMap.mp member
    rcases repairable.repairs diagnostic inList with none | ⟨piece, replacement, repairs⟩
    · simp [none] at suggested
    · have placed := repairs.placed
      rw [suggested, Option.bind_some] at placed
      simp [placed]
  refine Prod.ext ?_ ?_
  · simp [Edit.ofDiagnostics, Edit.suggested, List.filterMap_filterMap]
  · simpa [Edit.ofDiagnostics, List.countP_eq_zero] using allPlaced

theorem Repairable.edit_repairs (repairable : Repairable source diagnostics) (edit : Edit)
    (member : edit ∈ Edit.suggested source diagnostics) : edit.Repairs source := by
  obtain ⟨diagnostic, inList, isEdit⟩ := List.mem_filterMap.mp member
  rcases repairable.repairs diagnostic inList with none | ⟨piece, replacement, repairs⟩
  · simp [none] at isEdit
  · obtain rfl := Option.some.inj (repairs.placed.symm.trans isEdit)
    exact ⟨piece, replacement, rfl, repairs.rewrites⟩

theorem Edit.Apart.symm {one other : Edit} (apart : one.Apart source other) :
    other.Apart source one :=
  fun atEnd atEnd' => apart atEnd' atEnd

theorem Repairable.round (repairable : Repairable source diagnostics) :
    ∃ repaired, Edit.applyAll source (Edit.suggested source diagnostics) = some repaired ∧
      repair source diagnostics = some (repaired, 0) ∧
      Edit.Rewritten source (Edit.applied source (Edit.suggested source diagnostics)) source
        repaired.text := by
  have repairs := repairable.edit_repairs
  have apart : (Edit.suggested source diagnostics).Pairwise (Edit.Apart source) :=
    List.pairwise_filterMap.mpr repairable.apart
  have ofDiagnostics := repairable.ofDiagnostics_eq
  generalize Edit.suggested source diagnostics = edits at repairs apart ofDiagnostics ⊢
  -- Neither property of the edits depends on their order.
  have reordered := Edit.lastFirst_perm edits
  have start : Edit.Progress.Sound source (Edit.lastFirst edits) ⟨source, [], 0, 0⟩ :=
    ⟨List.prefix_rfl, by simp, .inl rfl⟩
  obtain ⟨final, run, rewritten⟩ := start.run
    (fun edit member => repairs edit (reordered.mem_iff.mp member)) (Edit.lastFirst_sorted edits)
    ((reordered.pairwise_iff fun apart => apart.symm).mpr apart)
  have result : Edit.applyAll source edits = some ⟨final.text, final.applied, final.skipped⟩ := by
    simp only [Edit.applyAll, run]
    rfl
  refine ⟨_, result, repair_eq ofDiagnostics result, ?_⟩
  simpa [Edit.Progress.text, Edit.applied] using rewritten

end Diagnostics

end CourseLint
