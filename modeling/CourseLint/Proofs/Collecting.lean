import Mathlib.Data.List.Nodup
import Mathlib.Data.List.Pairwise
import CourseLint.Files.Lintable
import CourseLint.Proofs.JoinedLookups
import CourseLint.Proofs.Overwriting

set_option autoImplicit false

namespace CourseLint

namespace NameTree

variable {ν : Type} [FileName ν]

mutual

def Distinct : NameTree ν → Prop
  | .file => True
  | .directory entries => DistinctIn entries

def DistinctIn : List (ν × NameTree ν) → Prop
  | [] => True
  | (name, tree) :: entries =>
    (∀ other ∈ entries, FileName.bytes other.1 ≠ FileName.bytes name) ∧ tree.Distinct ∧
      DistinctIn entries

end

theorem DistinctIn.nodup {entries : List (ν × NameTree ν)} (distinct : DistinctIn entries) :
    (entries.map fun entry => FileName.bytes entry.1).Nodup := by
  induction entries with
  | nil => exact .nil
  | cons entry entries ih =>
    obtain ⟨others, -, rest⟩ := distinct
    rw [List.map_cons, List.nodup_cons, List.mem_map]
    constructor
    · rintro ⟨other, member, same⟩
      exact others other member same
    · exact ih rest

section Sorting

variable {α : Type} {item : ν × α} {items : List (ν × α)}

theorem insertByName_perm (item : ν × α) (items : List (ν × α)) :
    (insertByName item items).Perm (item :: items) := by
  induction items with
  | nil => exact .refl _
  | cons other others ih =>
    rw [insertByName]
    split
    · exact (ih.cons other).trans (.swap item other others)
    · exact .refl _

theorem sortByName_perm (items : List (ν × α)) : (sortByName items).Perm items := by
  induction items with
  | nil => exact .refl _
  | cons item items ih => exact (insertByName_perm item _).trans (ih.cons item)

theorem insertByName_sorted
    (distinct : ∀ other ∈ items, FileName.bytes other.1 ≠ FileName.bytes item.1)
    (sorted : items.Pairwise fun one other => FileName.bytes one.1 < FileName.bytes other.1) :
    (insertByName item items).Pairwise
      fun one other => FileName.bytes one.1 < FileName.bytes other.1 := by
  induction items with
  | nil => exact List.pairwise_singleton _ _
  | cons other others ih =>
    obtain ⟨first, rest⟩ := List.pairwise_cons.mp sorted
    rw [insertByName]
    split
    · next before =>
      apply List.Pairwise.cons
      · intro later member
        cases List.mem_cons.mp ((insertByName_perm item others).subset member) with
        | inl same => exact same ▸ before
        | inr old => exact first later old
      · exact ih (fun later member => distinct later (by simp [member])) rest
    · next notBefore =>
      have before : FileName.bytes item.1 < FileName.bytes other.1 := by
        apply Classical.byContradiction
        intro notLess
        exact distinct other (by simp) (List.le_antisymm notLess notBefore)
      apply List.Pairwise.cons
      · intro later member
        cases List.mem_cons.mp member with
        | inl same => exact same ▸ before
        | inr old => exact List.lt_trans before (first later old)
      · exact sorted

theorem sortByName_sorted (distinct : (items.map fun entry => FileName.bytes entry.1).Nodup) :
    (sortByName items).Pairwise
      fun one other => FileName.bytes one.1 < FileName.bytes other.1 := by
  induction items with
  | nil => exact .nil
  | cons item items ih =>
    rw [List.map_cons, List.nodup_cons] at distinct
    apply insertByName_sorted
    · intro other member same
      exact distinct.1 (same ▸ List.mem_map_of_mem
        (f := fun entry : ν × α => FileName.bytes entry.1) ((sortByName_perm items).subset member))
    · exact ih distinct.2

end Sorting

inductive Leads : NameTree ν → List ν → NameTree ν → Prop
  | here (tree : NameTree ν) : Leads tree [] tree
  | into {entries : List (ν × NameTree ν)} {name : ν} {tree found : NameTree ν} {names : List ν}
      (listed : (name, tree) ∈ entries) (onward : Leads tree names found) :
      Leads (.directory entries) (name :: names) found

def Seen (name : ν) : Prop :=
  ∀ text, FileName.text? name = some text → text.head? ≠ some '.' ∧ text ≠ "_site".toList

theorem isPassedOver_eq_false_iff (name : ν) : isPassedOver name = false ↔ Seen name := by
  cases found : FileName.text? name with
  | none => simp [isPassedOver, Seen, found]
  | some text => simp [isPassedOver, Seen, found]

def Lintable (names : List ν) : Prop :=
  ∃ name, names.getLast? = some name ∧
    (FileName.kind name = .markup ∨ FileName.kind name = .bibliography)

theorem mem_lintableFile_iff {names here : List ν} :
    names ∈ lintableFile here ↔ names = here ∧ Lintable here := by
  have kinds (kind : FileKind) : kind ≠ .unsupported ↔ kind = .markup ∨ kind = .bibliography := by
    cases kind <;> simp
  cases last : here.getLast? with
  | none => simp [lintableFile, Lintable, last]
  | some name =>
    simp only [lintableFile, Lintable, last, Option.some.injEq, exists_eq_left', ← kinds]
    split <;> simp_all

end NameTree

namespace Access

variable {ν : Type} (access : Access ν) {here names : List ν} {name : ν}

-- Every directory on the way from `here` is shown as one and opened, and gives up the next name.
def AllowsFrom (here names : List ν) : Prop :=
  ∀ front name rest, names = front ++ name :: rest →
    access.isDirectory (here ++ front) = true ∧ access.opens (here ++ front) = true ∧
      access.yields (here ++ front ++ [name]) = true

-- The walk does not ask whether the directory that it starts from is one.
def Allows (names : List ν) : Prop :=
  ∀ front name rest, names = front ++ name :: rest →
    (front = [] ∨ access.isDirectory front = true) ∧ access.opens front = true ∧
      access.yields (front ++ [name]) = true

theorem allowsFrom_nil : access.AllowsFrom here [] := by
  intro front name rest parts
  simp at parts

theorem allowsFrom_cons_iff :
    access.AllowsFrom here (name :: names) ↔
      (access.isDirectory here = true ∧ access.opens here = true ∧
        access.yields (here ++ [name]) = true) ∧ access.AllowsFrom (here ++ [name]) names := by
  constructor
  · intro allows
    constructor
    · simpa using allows [] name names rfl
    · intro front next rest parts
      simpa using allows (name :: front) next rest (by simp [parts])
  · rintro ⟨first, later⟩ front next rest parts
    cases front with
    | nil =>
      obtain ⟨rfl, -⟩ := List.cons.inj parts
      simpa using first
    | cons same front =>
      obtain ⟨rfl, behind⟩ := List.cons.inj parts
      simpa using later front next rest behind

theorem allows_cons_iff :
    access.Allows (name :: names) ↔
      (access.opens [] = true ∧ access.yields [name] = true) ∧ access.AllowsFrom [name] names := by
  constructor
  · intro allows
    constructor
    · simpa using (allows [] name names rfl).2
    · intro front next rest parts
      simpa using allows (name :: front) next rest (by simp [parts])
  · rintro ⟨first, later⟩ front next rest parts
    cases front with
    | nil =>
      obtain ⟨rfl, -⟩ := List.cons.inj parts
      simpa using first
    | cons same front =>
      obtain ⟨rfl, behind⟩ := List.cons.inj parts
      simpa using later front next rest behind

end Access

namespace NameTree

variable {ν : Type} [FileName ν] {access : Access ν} {here names : List ν}
  {entries : List (ν × NameTree ν)} {tree : NameTree ν}

theorem collectIn_eq_map (access : Access ν) (here : List ν) (entries : List (ν × NameTree ν)) :
    collectIn access here entries = entries.map fun entry => (entry.1,
      if isPassedOver entry.1 || !access.yields (here ++ [entry.1]) then []
      else collect access (here ++ [entry.1]) entry.2) := by
  induction entries with
  | nil => rfl
  | cons entry entries ih => rw [collectIn, ih, List.map_cons]

theorem mem_collectIn_iff (here : List ν) :
    names ∈ (sortByName (collectIn access here entries)).flatMap Prod.snd ↔
      ∃ name tree, (name, tree) ∈ entries ∧ isPassedOver name = false ∧
        access.yields (here ++ [name]) = true ∧ names ∈ collect access (here ++ [name]) tree := by
  simp only [List.mem_flatMap, (sortByName_perm _).mem_iff, collectIn_eq_map, List.mem_map]
  constructor
  · rintro ⟨_, ⟨⟨name, tree⟩, listed, rfl⟩, below⟩
    split at below
    · simp at below
    · next taken =>
      simp only [Bool.or_eq_true, Bool.not_eq_true', not_or, Bool.not_eq_true, Bool.not_eq_false]
        at taken
      exact ⟨name, tree, listed, taken.1, taken.2, below⟩
  · rintro ⟨name, tree, listed, seen, yielded, below⟩
    exact ⟨_, ⟨(name, tree), listed, rfl⟩, by simpa [seen, yielded] using below⟩

theorem mem_collect_directory_iff :
    names ∈ collect access here (.directory entries) ↔
      (access.isDirectory here = false ∧ names = here ∧ Lintable here) ∨
        (access.isDirectory here = true ∧ access.opens here = true) ∧
          ∃ name tree, (name, tree) ∈ entries ∧ isPassedOver name = false ∧
            access.yields (here ++ [name]) = true ∧
            names ∈ collect access (here ++ [name]) tree := by
  rw [collect]
  cases shown : access.isDirectory here with
  | false => simp [mem_lintableFile_iff]
  | true =>
    cases opened : access.opens here with
    | false => simp
    | true => simpa using mem_collectIn_iff here

mutual

theorem exists_append_of_mem_collect (here : List ν) : (tree : NameTree ν) →
    names ∈ collect access here tree → ∃ more, names = here ++ more
  | .file, member => by
    rw [collect] at member
    split at member
    · simp at member
    · exact ⟨[], by simpa using (mem_lintableFile_iff.mp member).1⟩
  | .directory entries, member => by
    rcases mem_collect_directory_iff.mp member with
      ⟨-, same, -⟩ | ⟨-, name, tree, listed, -, -, below⟩
    · exact ⟨[], by simpa using same⟩
    · obtain ⟨more, parts⟩ := exists_append_of_mem_entries entries _ listed _ below
      exact ⟨name :: more, by simpa using parts⟩

theorem exists_append_of_mem_entries : (entries : List (ν × NameTree ν)) → ∀ entry ∈ entries,
    ∀ here, names ∈ collect access here entry.2 → ∃ more, names = here ++ more
  | [], _, listed, _, _ => by simp at listed
  | (name, tree) :: entries, entry, listed, here, below => by
    rcases List.mem_cons.mp listed with rfl | later
    · exact exists_append_of_mem_collect here tree below
    · exact exists_append_of_mem_entries entries entry later here below

end

omit [FileName ν] in
theorem exists_leads_cons_iff {name : ν} {more : List ν} :
    (∃ found, Leads (.directory entries) (name :: more) found) ↔
      ∃ tree, (name, tree) ∈ entries ∧ ∃ found, Leads tree more found := by
  constructor
  · rintro ⟨found, _ | ⟨listed, onward⟩⟩
    exact ⟨_, listed, found, onward⟩
  · rintro ⟨tree, listed, found, onward⟩
    exact ⟨found, .into listed onward⟩

theorem exists_entry_iff (here : List ν) (name : ν) (more : List ν) :
    (∃ other tree, (other, tree) ∈ entries ∧ isPassedOver other = false ∧
        access.yields (here ++ [other]) = true ∧
        here ++ name :: more ∈ collect access (here ++ [other]) tree) ↔
      (Seen name ∧ access.yields (here ++ [name]) = true) ∧
        ∃ tree, (name, tree) ∈ entries ∧
          here ++ [name] ++ more ∈ collect access (here ++ [name]) tree := by
  rw [← List.append_cons]
  constructor
  · rintro ⟨other, tree, listed, seen, yielded, below⟩
    obtain ⟨rest, parts⟩ := exists_append_of_mem_collect _ tree below
    obtain ⟨rfl, -⟩ : name = other ∧ more = rest := by simpa using parts
    exact ⟨⟨(isPassedOver_eq_false_iff name).mp seen, yielded⟩, tree, listed, below⟩
  · rintro ⟨⟨seen, yielded⟩, tree, listed, below⟩
    exact ⟨name, tree, listed, (isPassedOver_eq_false_iff name).mpr seen, yielded, below⟩

theorem mem_collect_iff (here : List ν) {more : List ν} :
    here ++ more ∈ collect access here tree ↔
      (∃ found, Leads tree more found) ∧ access.AllowsFrom here more ∧
        access.isDirectory (here ++ more) = false ∧ (∀ name ∈ more, Seen name) ∧
        Lintable (here ++ more) := by
  -- Along the names still to come: with each of them `here` and the tree go one step down.
  induction more generalizing here tree with
  | nil =>
    have leads : ∃ found, Leads tree [] found := ⟨tree, .here tree⟩
    cases tree with
    | file =>
      rw [collect]
      cases shown : access.isDirectory here <;>
        simp [shown, leads, access.allowsFrom_nil, mem_lintableFile_iff]
    | directory entries =>
      have notBelow (name : ν) (below : NameTree ν) :
          here ++ [] ∉ collect access (here ++ [name]) below := by
        intro member
        obtain ⟨more, parts⟩ := exists_append_of_mem_collect _ below member
        simp at parts
      rw [mem_collect_directory_iff]
      simp only [leads, access.allowsFrom_nil, notBelow]
      simp
  | cons name more ih =>
    cases tree with
    | file =>
      have noWay : ¬ ∃ found, Leads (.file : NameTree ν) (name :: more) found := by
        rintro ⟨found, ⟨⟩⟩
      have notFile : here ++ name :: more ∉ collect access here .file := by
        rw [collect]
        split <;> simp [mem_lintableFile_iff]
      simp [noWay, notFile]
    | directory entries =>
      have notHere : here ++ name :: more ≠ here := by simp
      rw [mem_collect_directory_iff, exists_entry_iff, exists_leads_cons_iff,
        access.allowsFrom_cons_iff, List.forall_mem_cons]
      simp only [notHere, false_and, and_false, false_or, ih]
      rw [List.append_cons here name more]
      grind

theorem mem_collectDirectory_iff :
    names ∈ collectDirectory access entries ↔
      (∃ found, Leads (.directory entries) names found) ∧ access.Allows names ∧
        access.isDirectory names = false ∧ (∀ name ∈ names, Seen name) ∧ Lintable names := by
  have collected : names ∈ collectDirectory access entries ↔ access.opens [] = true ∧
      ∃ name tree, (name, tree) ∈ entries ∧ isPassedOver name = false ∧
        access.yields ([] ++ [name]) = true ∧ names ∈ collect access ([] ++ [name]) tree := by
    rw [collectDirectory, ← mem_collectIn_iff]
    cases access.opens [] <;> simp
  rw [collected]
  cases names with
  | nil =>
    have noFile : ¬ Lintable ([] : List ν) := by simp [Lintable]
    simp only [noFile, and_false, iff_false]
    rintro ⟨-, name, tree, -, -, -, below⟩
    obtain ⟨more, parts⟩ := exists_append_of_mem_collect _ tree below
    simp at parts
  | cons name more =>
    rw [← List.nil_append (name :: more), exists_entry_iff [] name more]
    simp only [List.nil_append]
    rw [exists_leads_cons_iff, access.allows_cons_iff, List.forall_mem_cons]
    simp only [mem_collect_iff]
    grind

def NamesBefore (names others : List ν) : Prop :=
  names.map FileName.bytes < others.map FileName.bytes

theorem namesBefore_of_bytes_lt {name other : ν} (before : FileName.bytes name < FileName.bytes other)
    (more others : List ν) :
    NamesBefore (here ++ [name] ++ more) (here ++ [other] ++ others) := by
  simp only [NamesBefore, List.map_append, List.append_assoc]
  exact List.append_left_lt (List.cons_lt_cons_iff.mpr (.inl before))

theorem pairwise_lintableFile (here : List ν) : (lintableFile here).Pairwise NamesBefore := by
  unfold lintableFile
  split
  · split <;> simp
  · exact .nil

theorem pairwise_sortedEntries (distinct : DistinctIn entries)
    (within : ∀ entry ∈ collectIn access here entries, entry.2.Pairwise NamesBefore) :
    ((sortByName (collectIn access here entries)).flatMap Prod.snd).Pairwise NamesBefore := by
  have differ : ((collectIn access here entries).map fun entry => FileName.bytes entry.1).Nodup := by
    rw [collectIn_eq_map, List.map_map]
    exact distinct.nodup
  have behindName (entry : ν × List (List ν)) (member : entry ∈ collectIn access here entries)
      (names : List ν) (inside : names ∈ entry.2) : ∃ more, names = here ++ [entry.1] ++ more := by
    rw [collectIn_eq_map] at member
    obtain ⟨⟨name, tree⟩, -, rfl⟩ := List.mem_map.mp member
    split at inside
    · simp at inside
    · exact exists_append_of_mem_collect _ tree inside
  rw [List.pairwise_flatMap]
  constructor
  · intro entry member
    exact within entry ((sortByName_perm _).subset member)
  · apply (sortByName_sorted differ).imp_of_mem
    intro entry other member member' before names inside names' inside'
    obtain ⟨more, rfl⟩ := behindName entry ((sortByName_perm _).subset member) names inside
    obtain ⟨more', rfl⟩ := behindName other ((sortByName_perm _).subset member') names' inside'
    exact namesBefore_of_bytes_lt before more more'

mutual

theorem pairwise_collect (access : Access ν) (here : List ν) : (tree : NameTree ν) →
    tree.Distinct → (collect access here tree).Pairwise NamesBefore
  | .file, _ => by
    rw [collect]
    split
    · exact .nil
    · exact pairwise_lintableFile here
  | .directory entries, distinct => by
    rw [collect]
    split
    · split
      · exact pairwise_sortedEntries distinct (pairwise_collectIn access here entries distinct)
      · exact .nil
    · exact pairwise_lintableFile here

theorem pairwise_collectIn (access : Access ν) (here : List ν) :
    (entries : List (ν × NameTree ν)) → DistinctIn entries →
    ∀ entry ∈ collectIn access here entries, entry.2.Pairwise NamesBefore
  | [], _ => by simp [collectIn]
  | (name, tree) :: entries, ⟨_, below, rest⟩ => by
    have first := pairwise_collect access (here ++ [name]) tree below
    have later := pairwise_collectIn access here entries rest
    rw [collectIn]
    intro entry member
    cases List.mem_cons.mp member with
    | inl same =>
      rw [same]
      split
      · exact .nil
      · exact first
    | inr old => exact later entry old

end

theorem pairwise_collectDirectory (access : Access ν) (distinct : DistinctIn entries) :
    (collectDirectory access entries).Pairwise NamesBefore := by
  rw [collectDirectory]
  split
  · exact pairwise_sortedEntries distinct (pairwise_collectIn access [] entries distinct)
  · exact .nil

theorem nodup_of_pairwise {found : List (List ν)} (ordered : found.Pairwise NamesBefore) :
    found.Nodup := by
  apply ordered.imp
  rintro names _ before rfl
  exact List.lt_irrefl _ before

end NameTree

theorem Text.utf8_injective {text other : Text} (same : utf8 text = utf8 other) : text = other := by
  have encoded : text.utf8Encode = other.utf8Encode := congrArg List.toByteArray same
  rw [← String.toByteArray_ofList, ← String.toByteArray_ofList] at encoded
  exact String.ofList_injective (String.toByteArray_inj.mp encoded)

namespace FileTree

mutual

def WellNamed : FileTree → Prop
  | .file _ => True
  | .directory entries => WellNamedIn entries

def WellNamedIn : List (Text × FileTree) → Prop
  | [] => True
  | (name, tree) :: entries =>
    Disk.IsEntryName name ∧ (∀ other ∈ entries, other.1 ≠ name) ∧ tree.WellNamed ∧
      WellNamedIn entries

end

section Entries

variable {entries : List (Text × FileTree)} {name : Text} {names : List Text} {tree : FileTree}

theorem WellNamedIn.of_mem (wellNamed : WellNamedIn entries) (member : (name, tree) ∈ entries) :
    Disk.IsEntryName name ∧ tree.WellNamed := by
  induction entries with
  | nil => simp at member
  | cons entry entries ih =>
    obtain ⟨isName, -, below, rest⟩ := wellNamed
    cases List.mem_cons.mp member with
    | inl first =>
      obtain rfl := first
      exact ⟨isName, below⟩
    | inr later => exact ih rest later

theorem WellNamedIn.nodup (wellNamed : WellNamedIn entries) : (entries.map Prod.fst).Nodup := by
  induction entries with
  | nil => exact .nil
  | cons entry entries ih =>
    obtain ⟨-, others, -, rest⟩ := wellNamed
    rw [List.map_cons, List.nodup_cons, List.mem_map]
    constructor
    · rintro ⟨other, member, same⟩
      exact others other member same
    · exact ih rest

theorem entry?_eq_some_iff (wellNamed : WellNamedIn entries) :
    entry? (.directory entries) name = some tree ↔ (name, tree) ∈ entries := by
  rw [lookup_directory]
  constructor
  · intro found
    obtain ⟨entry, first, rfl⟩ := Option.map_eq_some_iff.mp found
    have same : entry.1 = name := by simpa using List.find?_some first
    rw [← same]
    exact List.mem_of_find?_eq_some first
  · intro member
    cases found : entries.find? (·.1 == name) with
    | none => exact absurd (List.find?_eq_none.mp found _ member) (by simp)
    | some entry =>
      have same : entry.1 = name := by simpa using List.find?_some found
      have only :=
        List.inj_on_of_nodup_map wellNamed.nodup (List.mem_of_find?_eq_some found) member same
      rw [Option.map_some, only]

theorem isEntryName_of_at? {found : FileTree} (wellNamed : tree.WellNamed)
    (leads : tree.at? names = some found) : ∀ name ∈ names, Disk.IsEntryName name := by
  induction names generalizing tree with
  | nil => simp
  | cons name names ih =>
    obtain ⟨below, listed, onward⟩ := Option.bind_eq_some_iff.mp leads
    cases tree with
    | file content => simp [lookup_file] at listed
    | directory entries =>
      have entry := WellNamedIn.of_mem wellNamed ((entry?_eq_some_iff wellNamed).mp listed)
      intro other member
      cases List.mem_cons.mp member with
      | inl first => exact first ▸ entry.1
      | inr later => exact ih entry.2 onward other later

theorem namesIn_eq_map (entries : List (Text × FileTree)) :
    namesIn entries = entries.map fun entry => (entry.1, entry.2.names) := by
  induction entries with
  | nil => rfl
  | cons entry entries ih => rw [namesIn, ih, List.map_cons]

mutual

theorem distinct_names : (tree : FileTree) → tree.WellNamed → tree.names.Distinct
  | .file _, _ => trivial
  | .directory entries, wellNamed => distinct_namesIn entries wellNamed

theorem distinct_namesIn : (entries : List (Text × FileTree)) → WellNamedIn entries →
    NameTree.DistinctIn (namesIn entries)
  | [], _ => trivial
  | (name, tree) :: entries, ⟨_, others, below, rest⟩ => by
    refine ⟨?_, distinct_names tree below, distinct_namesIn entries rest⟩
    intro other member same
    rw [namesIn_eq_map] at member
    obtain ⟨entry, listed, rfl⟩ := List.mem_map.mp member
    exact others entry listed (Text.utf8_injective same)

end

theorem exists_leads_names_iff (wellNamed : tree.WellNamed) :
    (∃ place, NameTree.Leads tree.names names place) ↔ ∃ found, tree.at? names = some found := by
  induction names generalizing tree with
  | nil => exact ⟨fun _ => ⟨tree, rfl⟩, fun _ => ⟨tree.names, .here _⟩⟩
  | cons name names ih =>
    cases tree with
    | file content =>
      constructor
      · rintro ⟨place, ⟨⟩⟩
      · rintro ⟨found, leads⟩
        simp [at?, lookup_file] at leads
    | directory entries =>
      rw [FileTree.names, NameTree.exists_leads_cons_iff, namesIn_eq_map]
      simp only [at?, Option.bind_eq_some_iff, entry?_eq_some_iff wellNamed, List.mem_map,
        Prod.mk.injEq]
      constructor
      · rintro ⟨_, ⟨⟨_, tree⟩, listed, rfl, rfl⟩, leads⟩
        obtain ⟨found, leads⟩ := (ih (WellNamedIn.of_mem wellNamed listed).2).mp leads
        exact ⟨found, tree, listed, leads⟩
      · rintro ⟨found, tree, listed, leads⟩
        have leadsOn := (ih (WellNamedIn.of_mem wellNamed listed).2).mpr ⟨found, leads⟩
        exact ⟨tree.names, ⟨(name, tree), listed, rfl, rfl⟩, leadsOn⟩

end Entries

end FileTree

namespace Disk

open FileTree

variable {disk : Disk} {path : Path} {entries : List (Text × FileTree)} {names : List Text}

theorem ofPath_foldl_join (areNames : ∀ name ∈ names, Path.IsName name) {name : Text}
    (last : names.getLast? = some name) (base : Path) :
    FileKind.ofPath (names.foldl Path.join base) = FileKind.ofPath name := by
  obtain ⟨front, rfl⟩ := List.getLast?_eq_some_iff.mp last
  have alone := Path.components_join (areNames name (by simp)) []
  have joined : Path.join [] name = name := by simp [Path.join]
  rw [joined] at alone
  simp only [FileKind.ofPath, Path.extension?, Path.fileName?, Path.components_foldl_join areNames,
    alone]
  simp

theorem ne_nil_of_node? {tree : FileTree} (stands : disk.node? path = some tree) : path ≠ [] := by
  rintro rfl
  have nowhere : disk.node? [] = none := rfl
  simp [nowhere] at stands

theorem isDirectory_foldl_join (stands : disk.node? path = some (.directory entries))
    (areNames : ∀ name ∈ names, IsEntryName name)
    (fits : Text.width (names.foldl Path.join path) < 4096) :
    disk.isDirectory (names.foldl Path.join path) =
      (((FileTree.directory entries).at? names).map FileTree.isDirectory).getD false := by
  rw [isDirectory, node?_foldl_join disk areNames (ne_nil_of_node? stands) fits, stands]
  rfl

theorem allows_of_at? (stands : disk.node? path = some (.directory entries))
    (areNames : ∀ name ∈ names, IsEntryName name)
    (fits : Text.width (names.foldl Path.join path) < 4096) {found : FileTree}
    (leads : (FileTree.directory entries).at? names = some found) :
    (disk.accessBelow path).Allows names := by
  rintro front name rest rfl
  have before (other : Text) (member : other ∈ front) : IsEntryName other :=
    areNames other (by simp [member])
  have behind (other : Text) (member : other ∈ name :: rest) : IsEntryName other :=
    areNames other (List.mem_append_right front member)
  rw [List.foldl_append] at fits
  have fitsBefore := Nat.lt_of_le_of_lt (width_le_foldl_join behind (front.foldl Path.join path)) fits
  have isDirectory : disk.isDirectory (front.foldl Path.join path) = true := by
    rw [isDirectory_foldl_join stands before fitsBefore]
    rw [at?_append] at leads
    obtain ⟨store, here, below⟩ := Option.bind_eq_some_iff.mp leads
    cases store with
    | file content => simp [at?, lookup_file] at below
    | directory entries => simp [here, FileTree.isDirectory]
  exact ⟨.inr isDirectory, isDirectory, rfl⟩

theorem mem_collected_iff (stands : disk.node? path = some (.directory entries))
    (wellNamed : WellNamedIn entries)
    (fits : Text.width (names.foldl Path.join path) < 4096) :
    names ∈ NameTree.collectDirectory (disk.accessBelow path) (namesIn entries) ↔
      (∃ content, (FileTree.directory entries).at? names = some (.file content)) ∧
        (∀ name ∈ names, name.head? ≠ some '.' ∧ name ≠ "_site".toList) ∧
        (FileKind.ofPath (names.foldl Path.join path) = .markup ∨
          FileKind.ofPath (names.foldl Path.join path) = .bibliography) := by
  have seen (name : Text) :
      NameTree.Seen name ↔ name.head? ≠ some '.' ∧ name ≠ "_site".toList := by
    simp [NameTree.Seen, FileName.text?]
  have whole : (FileTree.directory entries).WellNamed := wellNamed
  rw [NameTree.mem_collectDirectory_iff]
  simp only [seen]
  constructor
  · rintro ⟨leads, -, notShown, allSeen, name, last, kind⟩
    obtain ⟨found, stays⟩ := (exists_leads_names_iff whole).mp leads
    have areNames := isEntryName_of_at? whole stays
    change disk.isDirectory (names.foldl Path.join path) = false at notShown
    rw [isDirectory_foldl_join stands areNames fits, stays] at notShown
    rw [ofPath_foldl_join (fun name member => (areNames name member).1) last]
    refine ⟨?_, allSeen, kind⟩
    cases found with
    | file content => exact ⟨content, stays⟩
    | directory below => simp [FileTree.isDirectory] at notShown
  · rintro ⟨⟨content, isFile⟩, allSeen, kind⟩
    have areNames := isEntryName_of_at? whole isFile
    have nonempty : names ≠ [] := by
      rintro rfl
      simp [at?] at isFile
    have last := List.getLast?_eq_some_getLast nonempty
    rw [ofPath_foldl_join (fun name member => (areNames name member).1) last] at kind
    refine ⟨?_, allows_of_at? stands areNames fits isFile, ?_, allSeen, _, last, kind⟩
    · exact (exists_leads_names_iff whole).mpr ⟨_, isFile⟩
    · change disk.isDirectory (names.foldl Path.join path) = false
      rw [isDirectory_foldl_join stands areNames fits, isFile]
      rfl

theorem mem_filesAt_of_long (stands : disk.node? path = some (.directory entries)) {name : Text}
    {tree : FileTree} (listed : (name, tree) ∈ entries)
    (seen : name.head? ≠ some '.' ∧ name ≠ "_site".toList)
    (kind : FileKind.ofPath name = .markup ∨ FileKind.ofPath name = .bibliography)
    (long : 4096 ≤ Text.width (Path.join path name)) :
    Path.join path name ∈ disk.filesAt path := by
  have opened : disk.isDirectory path = true := by simp [isDirectory, stands, FileTree.isDirectory]
  have notShown : disk.isDirectory (Path.join path name) = false := by
    simp [isDirectory, node?_of_long disk long]
  have collected : [name] ∈ NameTree.collectDirectory (disk.accessBelow path) (namesIn entries) := by
    have isEntry : (name, tree.names) ∈ namesIn entries := by
      rw [namesIn_eq_map]
      exact List.mem_map_of_mem (f := fun entry : Text × FileTree => (entry.1, entry.2.names)) listed
    rw [NameTree.mem_collectDirectory_iff, Access.allows_cons_iff]
    refine ⟨⟨_, .into isEntry (.here _)⟩, ⟨⟨opened, rfl⟩, Access.allowsFrom_nil _⟩, notShown, ?_, ?_⟩
    · simpa [NameTree.Seen, FileName.text?] using seen
    · exact ⟨name, rfl, kind⟩
  simp only [filesAt, stands]
  exact List.mem_map_of_mem (f := fun names => names.foldl Path.join path) collected

end Disk

namespace NameTree

def lessonEntries : List (Text × FileTree) :=
  [("b.bib", .file (.text [])), ("a.md", .directory [("z.md", .file (.binary [0xff]))]),
    ("_site", .directory [("copy.md", .file (.text []))]), (".x.md", .file (.text [])),
    ("a-b", .directory [("c.markdown", .file (.text [])), ("c.ga", .file (.text []))]),
    ("a", .directory [("é.md", .file (.text [])), ("z.md", .file (.text []))])]

def lessonDisk : Disk := ⟨.directory [("t", .directory lessonEntries)], []⟩

-- The first name starts with a dot but is no text.
def bytesEntries : List (List UInt8 × NameTree (List UInt8)) :=
  [([0x2E, 0xFF], .directory [(Text.utf8 "a.md", .file)]),
    (Text.utf8 ".git", .directory [(Text.utf8 "b.md", .file)])]

def bytesAccess : Access (List UInt8) where
  isDirectory names := names.length == 1
  opens _ := true
  yields _ := true

def longPath : Path := Disk.dots 2045 ++ ['d']

def longDisk : Disk := ⟨.directory [("d", .directory [("x.md", .directory [])])], []⟩

end NameTree

end CourseLint
