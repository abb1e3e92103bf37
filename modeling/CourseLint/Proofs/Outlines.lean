import CourseLint.Files.Lintable
import CourseLint.Proofs.Overwriting

set_option autoImplicit false

namespace CourseLint

namespace Text

theorem precedes_asymm {a b : Text} (less : precedes a b = true) : precedes b a = false := by
  induction a generalizing b with
  | nil =>
    cases b with
    | nil => simp [precedes] at less
    | cons d b => rfl
  | cons c a ih =>
    cases b with
    | nil => simp [precedes] at less
    | cons d b =>
      simp only [precedes, Bool.or_eq_true, Bool.and_eq_true, decide_eq_true_eq, beq_iff_eq] at less
      rcases less with smaller | ⟨rfl, later⟩
      · have different : d ≠ c := by
          rintro rfl
          omega
        have notLess : ¬ d.toNat < c.toNat := by omega
        simp [precedes, different, notLess]
      · simp [precedes, ih later]

theorem precedes_trans {a b c : Text} (ab : precedes a b = true) (bc : precedes b c = true) :
    precedes a c = true := by
  induction a generalizing b c with
  | nil =>
    cases c with
    | nil => cases b <;> simp [precedes] at bc
    | cons e c => rfl
  | cons x a ih =>
    cases b with
    | nil => simp [precedes] at ab
    | cons y b =>
      cases c with
      | nil => simp [precedes] at bc
      | cons z c =>
        simp only [precedes, Bool.or_eq_true, Bool.and_eq_true, decide_eq_true_eq, beq_iff_eq]
          at ab bc ⊢
        rcases ab with less | ⟨rfl, later⟩
        · rcases bc with less' | ⟨rfl, -⟩
          · exact .inl (by omega)
          · exact .inl less
        · rcases bc with less' | ⟨rfl, later'⟩
          · exact .inl less'
          · exact .inr ⟨rfl, ih later later'⟩

theorem eq_of_not_precedes {a b : Text} (ab : precedes a b = false) (ba : precedes b a = false) :
    a = b := by
  induction a generalizing b with
  | nil =>
    cases b with
    | nil => rfl
    | cons d b => simp [precedes] at ab
  | cons c a ih =>
    cases b with
    | nil => simp [precedes] at ba
    | cons d b =>
      simp only [precedes, Bool.or_eq_false_iff, Bool.and_eq_false_iff, decide_eq_false_iff_not,
        beq_eq_false_iff_ne] at ab ba
      have same : c = d := Char.ext (UInt32.toNat_inj.mp (by
        have := ab.1
        have := ba.1
        unfold Char.toNat at *
        omega))
      subst same
      rw [ih (ab.2.resolve_left (by simp)) (ba.2.resolve_left (by simp))]

end Text

namespace FileTree

open Text

mutual

def Ordered : FileTree → Prop
  | .file _ => True
  | .directory entries => OrderedIn entries

def OrderedIn : List (Text × FileTree) → Prop
  | [] => True
  | (name, tree) :: entries =>
    (∀ other ∈ entries, precedes name other.1 = true) ∧ Ordered tree ∧ OrderedIn entries

end

theorem mem_putEntry {name : Text} {tree : FileTree} {entries : List (Text × FileTree)}
    {entry : Text × FileTree} (member : entry ∈ putEntry name tree entries) :
    entry = (name, tree) ∨ entry ∈ entries := by
  induction entries with
  | nil => simpa [putEntry] using member
  | cons other others ih =>
    rw [putEntry] at member
    split at member
    · rcases List.mem_cons.mp member with rfl | later
      · exact .inl rfl
      · exact .inr (List.mem_cons_of_mem _ later)
    · split at member
      · rcases List.mem_cons.mp member with rfl | later
        · exact .inl rfl
        · exact .inr later
      · rcases List.mem_cons.mp member with rfl | later
        · exact .inr (by simp)
        · rcases ih later with isNew | old
          · exact .inl isNew
          · exact .inr (List.mem_cons_of_mem _ old)

theorem orderedIn_putEntry {name : Text} {tree : FileTree} {entries : List (Text × FileTree)}
    (ordered : OrderedIn entries) (new : tree.Ordered) : OrderedIn (putEntry name tree entries) := by
  induction entries with
  | nil => exact ⟨by simp, new, trivial⟩
  | cons other others ih =>
    obtain ⟨first, within, rest⟩ := ordered
    rw [putEntry]
    split
    · next same => exact ⟨same ▸ first, new, rest⟩
    · next different =>
      split
      · next less =>
        refine ⟨?_, new, first, within, rest⟩
        intro entry member
        rcases List.mem_cons.mp member with rfl | later
        · exact less
        · exact precedes_trans less (first entry later)
      · next notLess =>
        have less : precedes other.1 name = true := by
          cases more : precedes other.1 name with
          | true => rfl
          | false => exact absurd (eq_of_not_precedes more (by simpa using notLess)) different
        refine ⟨?_, within, ih rest⟩
        intro entry member
        rcases mem_putEntry member with rfl | old
        · exact less
        · exact first entry old

theorem ordered_of_found {name : Text} {entries : List (Text × FileTree)} {tree : FileTree}
    (ordered : OrderedIn entries) (found : FileTree.entry? (directory entries) name = some tree) :
    tree.Ordered := by
  induction entries with
  | nil => simp [lookup_directory] at found
  | cons other others ih =>
    obtain ⟨-, within, rest⟩ := ordered
    rw [lookup_directory, List.find?_cons] at found
    split at found
    · obtain rfl := Option.some.inj found
      exact within
    · exact ih rest found

theorem ordered_empty : empty.Ordered := trivial

theorem ordered_put {new : FileTree} (newOrdered : new.Ordered) (names : List Text) {tree : FileTree}
    (ordered : tree.Ordered) : (put new names tree).Ordered := by
  induction names generalizing tree with
  | nil => exact newOrdered
  | cons name names ih =>
    have below : ((tree.entry? name).getD empty).Ordered := by
      cases tree with
      | file content => exact ordered_empty
      | directory entries =>
        cases found : FileTree.entry? (directory entries) name with
        | none => exact ordered_empty
        | some sub => exact ordered_of_found ordered found
    cases tree with
    | file content =>
      have nothing : OrderedIn [] := trivial
      exact orderedIn_putEntry nothing (ih below)
    | directory entries => exact orderedIn_putEntry ordered (ih below)

mutual

def outline : FileTree → FileTree
  | .file _ => .file (.text [])
  | .directory entries => .directory (outlineIn entries)

def outlineIn : List (Text × FileTree) → List (Text × FileTree)
  | [] => []
  | (name, tree) :: entries => (name, outline tree) :: outlineIn entries

end

theorem outlineIn_putEntry {name : Text} {old new : FileTree} {entries : List (Text × FileTree)}
    (ordered : OrderedIn entries) (found : FileTree.entry? (directory entries) name = some old)
    (same : new.outline = old.outline) :
    outlineIn (putEntry name new entries) = outlineIn entries := by
  induction entries with
  | nil => simp [lookup_directory] at found
  | cons other others ih =>
    obtain ⟨first, -, rest⟩ := ordered
    rw [putEntry]
    by_cases here : other.1 = name
    · have isOld : other.2 = old := by simpa [lookup_directory, here] using found
      rw [if_pos here, outlineIn, outlineIn, same, isOld, here]
    · have later : FileTree.entry? (directory others) name = some old := by
        simpa [lookup_directory, here] using found
      -- The name stands further on, so nothing is put in front.
      obtain ⟨entry, member, isName⟩ := List.any_eq_true.mp (any_of_found later)
      have less : precedes other.1 name = true := eq_of_beq isName ▸ first entry member
      rw [if_neg here, if_neg (by simp [precedes_asymm less]), outlineIn, outlineIn, ih rest later]

theorem outline_put (new : Content) {content : Content} {names : List Text} {tree : FileTree}
    (ordered : tree.Ordered) (isFile : tree.at? names = some (.file content)) :
    (put (.file new) names tree).outline = tree.outline := by
  induction names generalizing tree with
  | nil =>
    obtain rfl := Option.some.inj isFile
    rfl
  | cons name names ih =>
    obtain ⟨sub, found, isFileBelow⟩ := Option.bind_eq_some_iff.mp isFile
    cases tree with
    | file content => simp [lookup_file] at found
    | directory entries =>
      have below := ih (ordered_of_found ordered found) isFileBelow
      simp only [put, found, Option.getD_some, outline]
      rw [outlineIn_putEntry ordered found below]

theorem find?_outlineIn (name : Text) (entries : List (Text × FileTree)) :
    FileTree.entry? (directory (outlineIn entries)) name =
      (FileTree.entry? (directory entries) name).map outline := by
  induction entries with
  | nil => rfl
  | cons other others ih =>
    simp only [lookup_directory, outlineIn, List.find?_cons] at ih ⊢
    cases other.1 == name with
    | true => rfl
    | false => exact ih

theorem at?_outline (tree : FileTree) (names : List Text) :
    tree.outline.at? names = (tree.at? names).map outline := by
  induction names generalizing tree with
  | nil => rfl
  | cons name names ih =>
    cases tree with
    | file content => rfl
    | directory entries =>
      rw [outline, at?, at?, find?_outlineIn]
      cases FileTree.entry? (directory entries) name with
      | none => rfl
      | some sub => exact ih sub

theorem any_outlineIn (name : Text) (entries : List (Text × FileTree)) :
    (outlineIn entries).any (·.1 == name) = entries.any (·.1 == name) := by
  induction entries with
  | nil => rfl
  | cons other others ih => simp only [outlineIn, List.any_cons, ih]

theorem listing?_outline (tree : FileTree) : tree.outline.listing? = tree.listing? := by
  cases tree with
  | file content => rfl
  | directory entries => exact congrArg some (funext fun name => any_outlineIn name entries)

mutual

theorem names_outline : (tree : FileTree) → tree.outline.names = tree.names
  | .file _ => rfl
  | .directory entries => by rw [outline, names, names, namesIn_outlineIn entries]

theorem namesIn_outlineIn : (entries : List (Text × FileTree)) →
    namesIn (outlineIn entries) = namesIn entries
  | [] => rfl
  | (name, tree) :: entries => by
    rw [outlineIn, namesIn, namesIn, names_outline tree, namesIn_outlineIn entries]

end

theorem isDirectory_outline (tree : FileTree) : tree.outline.isDirectory = tree.isDirectory := by
  cases tree <;> rfl

end FileTree

namespace Disk

open FileTree

def outline (disk : Disk) : Disk := { disk with root := disk.root.outline }

theorem locate_outline (disk : Disk) (path : Path) : disk.outline.locate path = disk.locate path := by
  have sameFollow : disk.outline.follow = disk.follow := by
    funext names part
    have sameListing : (disk.outline.root.at? names).map listing? =
        (disk.root.at? names).map listing? := by
      simp [outline, at?_outline, Function.comp_def, listing?_outline]
    rw [follow_eq, follow_eq, sameListing]
  simp only [locate, sameFollow]
  rfl

theorem node?_outline (disk : Disk) (path : Path) :
    disk.outline.node? path = (disk.node? path).map FileTree.outline := by
  simp only [node?, locate_outline]
  cases disk.locate path with
  | error cause => rfl
  | ok names => exact at?_outline disk.root names

theorem fileExists_outline (disk : Disk) (path : Path) :
    disk.outline.fileExists path = disk.fileExists path := by
  simp [fileExists, node?_outline]

theorem accessBelow_outline (disk : Disk) (path : Path) :
    disk.outline.accessBelow path = disk.accessBelow path := by
  have isDirectory (path : Path) : disk.outline.isDirectory path = disk.isDirectory path := by
    simp [Disk.isDirectory, node?_outline, Function.comp_def, isDirectory_outline]
  simp only [accessBelow, isDirectory]

theorem filesAt_outline (disk : Disk) (path : Path) :
    disk.outline.filesAt path = disk.filesAt path := by
  rw [filesAt, filesAt, node?_outline, accessBelow_outline]
  cases disk.node? path with
  | none => rfl
  | some tree =>
    cases tree with
    | file content => rfl
    | directory entries => simp only [Option.map_some, FileTree.outline, namesIn_outlineIn]

end Disk

end CourseLint
