import CourseLint.Bibliography.Resolved
import CourseLint.Proofs.SourceLayout

set_option autoImplicit false

namespace CourseLint.Bibliography

theorem map_of_mapM {α β γ : Type} {f : α → Option β} {first : α → γ} {second : β → γ}
    (keeps : ∀ a b, f a = some b → second b = first a) {as : List α} {bs : List β}
    (mapped : as.mapM f = some bs) : bs.map second = as.map first := by
  induction as generalizing bs with
  | nil =>
    obtain rfl := Option.some.inj mapped
    rfl
  | cons a as ih =>
    rw [List.mapM_cons] at mapped
    obtain ⟨b, isB, rest⟩ := Option.bind_eq_some_iff.mp mapped
    obtain ⟨later, isLater, same⟩ := Option.bind_eq_some_iff.mp rest
    obtain rfl := Option.some.inj same
    rw [List.map_cons, List.map_cons, keeps a b isB, ih isLater]

theorem resolveEntry_key {abbreviations : List Field} (entry : Entry) (resolved : Resolved)
    (isResolved : resolveEntry abbreviations entry = some resolved) : resolved.key = entry.key := by
  obtain ⟨_, -, same⟩ := Option.bind_eq_some_iff.mp isResolved
  obtain rfl := Option.some.inj same
  rfl

theorem Resolved.continuing_key {entry parent continued : Resolved}
    (continues : entry.continuing parent = some continued) : continued.key = entry.key := by
  simp only [continuing] at continues
  split at continues
  · obtain rfl := Option.some.inj continues
    rfl
  · obtain rfl := Option.some.inj continues
    rfl
  · cases continues
  · obtain rfl := Option.some.inj continues
    rfl

theorem Resolved.foldlM_continuing_key {parents : List Resolved} {entry continued : Resolved}
    (continues : parents.foldlM Resolved.continuing entry = some continued) :
    continued.key = entry.key := by
  induction parents generalizing entry with
  | nil =>
    obtain rfl := Option.some.inj continues
    rfl
  | cons parent parents ih =>
    obtain ⟨next, isNext, rest⟩ := Option.bind_eq_some_iff.mp continues
    rw [ih rest, continuing_key isNext]

theorem complete_key {entries : List Resolved} {fuel : Nat} (entry completed : Resolved)
    (isComplete : complete entries fuel entry = some completed) : completed.key = entry.key := by
  cases fuel with
  | zero =>
    obtain rfl := Option.some.inj isComplete
    rfl
  | succ fuel =>
    obtain ⟨_, -, continues⟩ := Option.bind_eq_some_iff.mp isComplete
    exact Resolved.foldlM_continuing_key continues

theorem distinct_of_keysDiffer {before : List Text} {entries : List Resolved}
    (differ : keysDiffer before entries = true) :
    (entries.map Resolved.key).Nodup ∧ ∀ entry ∈ entries, entry.key ∉ before := by
  -- The list in front holds aliases, too, so more than the key of an entry is added to it.
  induction entries generalizing before with
  | nil => simp
  | cons entry entries ih =>
    rw [keysDiffer, Bool.and_eq_true, Bool.not_eq_true', List.contains_eq_mem,
      decide_eq_false_iff_not] at differ
    obtain ⟨isNew, later⟩ := differ
    obtain ⟨distinct, others⟩ := ih later
    have apart (other : Resolved) (member : other ∈ entries) :
        other.key ∉ before ∧ other.key ≠ entry.key := by
      have outside := others other member
      rw [List.mem_append, Resolved.keys, List.mem_cons] at outside
      tauto
    constructor
    · refine List.nodup_cons.mpr ⟨?_, distinct⟩
      rw [List.mem_map]
      rintro ⟨other, member, same⟩
      exact (apart other member).2 same
    · rintro other (_ | ⟨_, member⟩)
      · exact isNew
      · exact (apart other member).1

theorem resolve_eq_some {source : Source} {found : List ResolvedEntry}
    (isResolved : resolve source = some found) :
    found.map ResolvedEntry.key = source.entries.map Entry.key ∧
      (source.entries.map Entry.key).Nodup := by
  obtain ⟨resolved, isFirst, rest⟩ := Option.bind_eq_some_iff.mp isResolved
  have written := map_of_mapM resolveEntry_key isFirst
  split at rest
  · next differ =>
    obtain ⟨completed, isSecond, same⟩ := Option.bind_eq_some_iff.mp rest
    obtain rfl := Option.some.inj same
    have kept := map_of_mapM complete_key isSecond
    rw [List.map_map, ← written]
    exact ⟨kept, (distinct_of_keysDiffer differ).1⟩
  · cases rest

instance : LawfulReader where
  headed := exists_heading
  ordered := pairwise_start
  distinct _ resolved := (resolve_eq_some resolved).2
  sublist _ resolved := (resolve_eq_some resolved).1 ▸ List.Sublist.refl _
  stored _ resolved _ member := (resolve_eq_some resolved).1 ▸ member

end CourseLint.Bibliography
