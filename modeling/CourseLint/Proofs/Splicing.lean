import CourseLint.Proofs.Selection

set_option autoImplicit false

namespace CourseLint.Edit

open Text

def Usable (source : Text) (edit : Edit) : Prop :=
  edit.start ≤ edit.stop ∧
    (edit.start ≤ width source → (splitAtByte? source edit.start).isSome) ∧
    (edit.stop ≤ width source → (splitAtByte? source edit.stop).isSome)

instance (source : Text) (edit : Edit) : Decidable (edit.Usable source) :=
  inferInstanceAs (Decidable (_ ∧ _ ∧ _))

def insertedAt (edits : List Edit) (offset : Nat) : Text :=
  (startingAt offset edits).reverse.flatMap Edit.text

def covers (edits : List Edit) (offset : Nat) : Bool :=
  edits.any fun edit => edit.start ≤ offset && offset < edit.stop

def spliceFrom (edits : List Edit) (offset : Nat) : Text → Text
  | [] => insertedAt edits offset
  | c :: rest =>
    insertedAt edits offset ++ (if covers edits offset then [] else [c]) ++
      spliceFrom edits (offset + c.utf8Size) rest

def splice (source : Text) (edits : List Edit) : Text := spliceFrom edits 0 source

section Lookup

variable {edits : List Edit} {offset : Nat}

theorem insertedAt_snoc (edits : List Edit) (edit : Edit) (offset : Nat) :
    insertedAt (edits ++ [edit]) offset =
      (if edit.start = offset then edit.text else []) ++ insertedAt edits offset := by
  by_cases here : edit.start = offset <;> simp [insertedAt, startingAt, here]

theorem covers_snoc (edits : List Edit) (edit : Edit) (offset : Nat) :
    covers (edits ++ [edit]) offset =
      (covers edits offset || (edit.start ≤ offset && offset < edit.stop)) := by
  simp [covers]

theorem insertedAt_eq_nil_of_ne (elsewhere : ∀ edit ∈ edits, edit.start ≠ offset) :
    insertedAt edits offset = [] := by
  simp [insertedAt, startingAt_eq_nil elsewhere]

theorem insertedAt_eq_nil (later : ∀ edit ∈ edits, offset < edit.start) :
    insertedAt edits offset = [] :=
  insertedAt_eq_nil_of_ne fun edit member => Nat.ne_of_gt (later edit member)

theorem covers_eq_false (later : ∀ edit ∈ edits, offset < edit.start) :
    covers edits offset = false := by
  refine List.any_eq_false.mpr fun edit member => ?_
  have behind := later edit member
  simp only [Bool.and_eq_true, decide_eq_true_eq, not_and]
  omega

theorem spliceFrom_before (edits : List Edit) (offset : Nat) (text rest : Text)
    (later : ∀ edit ∈ edits, offset + width text ≤ edit.start) :
    spliceFrom edits offset (text ++ rest) =
      text ++ spliceFrom edits (offset + width text) rest := by
  induction text generalizing offset with
  | nil => rfl
  | cons c text ih =>
    have wide := c.utf8Size_pos
    have here : ∀ edit ∈ edits, offset < edit.start := by
      intro edit member
      have behind := later edit member
      rw [width_cons] at behind
      omega
    have onward := ih (offset + c.utf8Size) (by simpa [Nat.add_assoc] using later)
    simp [spliceFrom, insertedAt_eq_nil here, covers_eq_false here, onward, Nat.add_assoc]

theorem spliceFrom_snoc_past (edits : List Edit) (edit : Edit) (offset : Nat) (rest : Text)
    (began : edit.start < offset) (ended : edit.stop ≤ offset) :
    spliceFrom (edits ++ [edit]) offset rest = spliceFrom edits offset rest := by
  have elsewhere : edit.start ≠ offset := by omega
  induction rest generalizing offset with
  | nil => simp [spliceFrom, insertedAt_snoc, elsewhere]
  | cons c rest ih =>
    have outside : ¬ offset < edit.stop := by omega
    have onward := ih (offset + c.utf8Size) (by omega) (by omega) (by omega)
    simp [spliceFrom, insertedAt_snoc, covers_snoc, elsewhere, outside, onward]

theorem spliceFrom_snoc_inside (edits : List Edit) (edit : Edit) (offset : Nat)
    (covered rest : Text) (began : edit.start < offset) (ends : offset + width covered = edit.stop)
    (later : ∀ other ∈ edits, edit.stop ≤ other.start) :
    spliceFrom (edits ++ [edit]) offset (covered ++ rest) = spliceFrom edits edit.stop rest := by
  induction covered generalizing offset with
  | nil =>
    obtain rfl : offset = edit.stop := ends
    exact spliceFrom_snoc_past edits edit _ rest began (Nat.le_refl _)
  | cons c covered ih =>
    have wide := c.utf8Size_pos
    rw [width_cons] at ends
    have elsewhere : edit.start ≠ offset := by omega
    have inside : edit.start ≤ offset ∧ offset < edit.stop := by omega
    have others : ∀ other ∈ edits, offset < other.start :=
      fun other member => Nat.lt_of_lt_of_le inside.2 (later other member)
    have onward := ih (offset + c.utf8Size) (by omega) (by omega)
    simp [spliceFrom, insertedAt_snoc, covers_snoc, insertedAt_eq_nil others, elsewhere, inside,
      onward]

theorem spliceFrom_snoc (edits : List Edit) (edit : Edit) (replaced rest : Text)
    (ends : edit.start + width replaced = edit.stop)
    (later : ∀ other ∈ edits, edit.stop ≤ other.start) :
    spliceFrom (edits ++ [edit]) edit.start (replaced ++ rest) =
      edit.text ++ spliceFrom edits edit.stop rest := by
  cases replaced with
  | nil =>
    -- Other edits may begin at the same byte; their texts stand behind that of this one.
    have same : edit.start = edit.stop := ends
    cases rest with
    | nil => simp [spliceFrom, insertedAt_snoc, same]
    | cons c rest =>
      have wide := c.utf8Size_pos
      have past :=
        spliceFrom_snoc_past edits edit (edit.stop + c.utf8Size) rest (by omega) (by omega)
      simp [spliceFrom, insertedAt_snoc, covers_snoc, same, past]
  | cons c covered =>
    have wide := c.utf8Size_pos
    rw [width_cons] at ends
    have others : ∀ other ∈ edits, edit.start < other.start := by
      intro other member
      have behind := later other member
      omega
    have runs : edit.start < edit.stop := by omega
    have inside := spliceFrom_snoc_inside edits edit (edit.start + c.utf8Size) covered rest
      (by omega) (by omega) later
    simp [spliceFrom, insertedAt_snoc, covers_snoc, insertedAt_eq_nil others, runs, inside]

theorem splice_congr (source : Text) {edits edits' : List Edit} (same : SameByStart edits edits') :
    splice source edits = splice source edits' := by
  have inserted (offset : Nat) : insertedAt edits offset = insertedAt edits' offset := by
    rw [insertedAt, insertedAt, same offset]
  have covered (offset : Nat) : covers edits offset = covers edits' offset :=
    same.perm.any_eq
  have fromHere (offset : Nat) :
      spliceFrom edits offset source = spliceFrom edits' offset source := by
    induction source generalizing offset with
    | nil => exact inserted offset
    | cons c rest ih => rw [spliceFrom, spliceFrom, inserted, covered, ih]
  exact fromHere 0

end Lookup

structure Progress.Splices (source : Text) (done : List Edit) (progress : Progress) : Prop where
  finished : ∃ passed, source = progress.untouched ++ passed ∧
    progress.finished = spliceFrom done (width progress.untouched) passed
  behind : ∀ edit ∈ done, width progress.untouched ≤ edit.start

theorem Usable.exists_parts {source untouched : Text} {edit : Edit} (usable : edit.Usable source)
    (within : untouched <+: source) (reached : edit.stop ≤ width untouched) :
    ∃ front replaced between, untouched = front ++ replaced ++ between ∧
      edit.start = width front ∧ edit.stop = width (front ++ replaced) := by
  obtain ⟨forward, cutsStart, cutsStop⟩ := usable
  obtain ⟨passed, rfl⟩ := within
  rw [width_append] at cutsStart cutsStop
  obtain ⟨⟨front, fromStart⟩, cutStart⟩ := Option.isSome_iff_exists.mp (cutsStart (by omega))
  obtain ⟨⟨upToStop, fromStop⟩, cutStop⟩ := Option.isSome_iff_exists.mp (cutsStop (by omega))
  obtain ⟨wholeStart, start⟩ := (splitAtByte?_eq_some_iff _ _ _ _).mp cutStart
  obtain ⟨wholeStop, stop⟩ := (splitAtByte?_eq_some_iff _ _ _ _).mp cutStop
  obtain ⟨replaced, rfl⟩ := prefix_of_width_le ⟨fromStart, wholeStart.symm⟩
    ⟨fromStop, wholeStop.symm⟩ (by omega)
  obtain ⟨between, rfl⟩ := prefix_of_width_le ⟨fromStop, wholeStop.symm⟩
    (List.prefix_append untouched passed) (by omega)
  exact ⟨front, replaced, between, rfl, start.symm, stop.symm⟩

theorem Progress.Splices.step {source : Text} {done : List Edit} {progress : Progress} {edit : Edit}
    (splices : progress.Splices source done) (usable : edit.Usable source)
    (reached : edit.stop ≤ width progress.untouched) :
    ∃ next, progress.step edit = some next ∧ next.Splices source (done ++ [edit]) ∧
      width next.untouched = edit.start ∧ next.applied = progress.applied + 1 ∧
      next.skipped = progress.skipped := by
  obtain ⟨⟨passed, whole, finished⟩, behind⟩ := splices
  obtain ⟨front, replaced, between, untouched, start, stop⟩ :=
    usable.exists_parts ⟨passed, whole.symm⟩ reached
  refine ⟨_, progress.step_apply edit untouched start stop,
    ⟨⟨replaced ++ (between ++ passed), ?_, ?_⟩, ?_⟩, start.symm, rfl, rfl⟩
  · rw [whole, untouched]
    simp
  · have later : ∀ other ∈ done, edit.stop ≤ other.start :=
      fun other member => Nat.le_trans reached (behind other member)
    have ends : edit.start + width replaced = edit.stop := by rw [start, stop, width_append]
    have limit : edit.stop + width between = width progress.untouched := by
      rw [untouched, stop, width_append (front ++ replaced)]
    have here := spliceFrom_snoc done edit replaced (between ++ passed) ends later
    rw [spliceFrom_before done edit.stop between passed (by rwa [limit]), limit, ← finished] at here
    rw [← start, here, List.append_assoc]
  · intro other member
    rcases List.mem_append.mp member with earlier | isEdit
    · have limit := behind other earlier
      have forward := usable.1
      change width front ≤ other.start
      omega
    · rw [List.mem_singleton.mp isEdit]
      exact Nat.le_of_eq start.symm

theorem Progress.Splices.run {source : Text} {done edits : List Edit} {progress : Progress}
    (splices : progress.Splices source done) (usable : ∀ edit ∈ edits, edit.Usable source) :
    ∃ final, edits.foldlM Progress.step progress = some final ∧
      final.Splices source (done ++ kept (width progress.untouched) edits) ∧
      final.applied = progress.applied + (kept (width progress.untouched) edits).length ∧
      final.skipped = progress.skipped + (leftOut (width progress.untouched) edits).length := by
  induction edits generalizing progress done with
  | nil => exact ⟨progress, rfl, by simpa [kept] using splices, rfl, rfl⟩
  | cons edit edits ih =>
    have usableRest : ∀ other ∈ edits, other.Usable source :=
      fun other member => usable other (by simp [member])
    rw [List.foldlM_cons]
    by_cases beyond : width progress.untouched < edit.stop
    · simp only [kept, leftOut, if_pos beyond, progress.step_skip edit beyond]
      have same : Progress.Splices source done { progress with skipped := progress.skipped + 1 } :=
        ⟨splices.finished, splices.behind⟩
      obtain ⟨final, run, splices', applied, skipped⟩ := ih same usableRest
      refine ⟨final, run, splices', applied, ?_⟩
      rw [skipped, List.length_cons, Nat.add_assoc, Nat.add_comm 1]
    · simp only [kept, leftOut, if_neg beyond]
      obtain ⟨next, stepped, splicesNext, limit, appliedNext, skippedNext⟩ :=
        splices.step (usable edit (by simp)) (Nat.not_lt.mp beyond)
      obtain ⟨final, run, splices', applied, skipped⟩ := ih splicesNext usableRest
      rw [limit, appliedNext, skippedNext] at *
      refine ⟨final, by rw [stepped]; exact run, by simpa using splices', ?_, skipped⟩
      rw [applied, List.length_cons]
      omega

theorem applyAll_of_usable {source : Text} {edits : List Edit}
    (usable : ∀ edit ∈ edits, edit.Usable source) :
    applyAll source edits = some ⟨splice source (applied source edits),
      (applied source edits).length, (leftOut (width source) (lastFirst edits)).length⟩ := by
  have start : Progress.Splices source [] ⟨source, [], 0, 0⟩ :=
    ⟨⟨[], by simp, rfl⟩, by simp⟩
  obtain ⟨final, run, ⟨⟨passed, whole, finished⟩, behind⟩, isApplied, isSkipped⟩ :=
    start.run fun edit member => usable edit ((lastFirst_perm edits).subset member)
  change ∀ edit ∈ applied source edits, _ at behind
  change final.finished = spliceFrom (applied source edits) _ _ at finished
  have untouched : splice source (applied source edits) = final.untouched ++ final.finished := by
    have front := spliceFrom_before (applied source edits) 0 final.untouched passed
      (by simpa using behind)
    rw [Nat.zero_add, ← whole] at front
    rw [splice, front, finished]
  rw [Nat.zero_add] at isApplied isSkipped
  simp only [applyAll, run, Option.bind_eq_bind, Option.bind_some, Option.pure_def, untouched,
    isApplied, isSkipped]
  rfl

theorem applyAll_eq_splice (source : Text) (edits : List Edit)
    (usable : ∀ edit ∈ edits, edit.Usable source) :
    ∃ taken left, taken.Sublist edits ∧ (taken ++ left).Perm edits ∧
      taken.Pairwise Disjoint ∧ (∀ edit ∈ taken, edit.stop ≤ width source) ∧
      applyAll source edits = some ⟨splice source taken, taken.length, left.length⟩ ∧
      taken.length + left.length = edits.length ∧
      (∀ edit ∈ left, width source < edit.stop ∨
        ∃ other ∈ taken, edit.start ≤ other.start ∧ other.start < edit.stop) ∧
      ((edits.map start).Nodup →
        ∀ edits', edits'.Perm edits → applyAll source edits' = applyAll source edits) := by
  have sorted := lastFirst_sorted edits
  have reordered := lastFirst_perm edits
  have forward : ∀ edit ∈ lastFirst edits, edit.start ≤ edit.stop :=
    fun edit member => (usable edit (reordered.subset member)).1
  obtain ⟨taken, isTaken, same⟩ :=
    exists_listed edits (kept_sublist (width source) (lastFirst edits))
  have perm := same.perm
  have parted : (taken ++ leftOut (width source) (lastFirst edits)).Perm edits :=
    ((perm.append_right _).trans (kept_append_leftOut_perm _ _)).trans reordered
  refine ⟨taken, leftOut (width source) (lastFirst edits), isTaken, parted, ?_, ?_, ?_, ?_, ?_, ?_⟩
  · exact (perm.pairwise_iff Disjoint.symm).mpr (kept_disjoint _ _ forward)
  · intro edit member
    exact stop_le_of_mem_kept _ _ forward edit (perm.subset member)
  · rw [applyAll_of_usable usable, splice_congr source same, perm.length_eq]
    rfl
  · rw [← List.length_append]
    exact parted.length_eq
  · intro edit member
    rcases leftOut_blocked _ _ sorted edit member with past | ⟨other, isKept, blocked⟩
    · exact .inl past
    · exact .inr ⟨other, perm.symm.subset isKept, blocked⟩
  · intro distinct edits' reordered'
    rw [applyAll, applyAll, lastFirst_eq_of_perm distinct reordered']

def crowded : List Edit := [⟨1, 1, ['a']⟩, ⟨0, 3, ['x']⟩, ⟨1, 1, ['b']⟩, ⟨3, 9, ['y']⟩]

theorem applyAll_eq_splice_crowded :
    (∀ edit ∈ crowded, edit.Usable "zé!".toList) ∧
      ∃ taken left, taken.Sublist crowded ∧ (taken ++ left).Perm crowded ∧
        applyAll "zé!".toList crowded = some ⟨splice "zé!".toList taken, taken.length, left.length⟩ ∧
        applyAll "zé!".toList crowded = some ⟨"zbaé!".toList, 2, 2⟩ := by
  have usable : ∀ edit ∈ crowded, edit.Usable "zé!".toList := by decide
  obtain ⟨taken, left, isTaken, parted, -, -, result, -⟩ :=
    applyAll_eq_splice "zé!".toList crowded usable
  exact ⟨usable, taken, left, isTaken, parted, result, by decide⟩

end CourseLint.Edit
