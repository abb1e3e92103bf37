import CourseLint.Files.Disk
import CourseLint.Proofs.JoinedPaths

set_option autoImplicit false

namespace CourseLint

namespace FileTree

theorem at?_append (tree : FileTree) (names more : List Text) :
    tree.at? (names ++ more) = (tree.at? names).bind fun store => store.at? more := by
  induction names generalizing tree with
  | nil => rfl
  | cons first names ih =>
    cases found : tree.entry? first with
    | none => simp [at?, found]
    | some sub => simpa [at?, found] using ih sub

theorem at?_singleton (tree : FileTree) (name : Text) : tree.at? [name] = tree.entry? name := by
  cases found : tree.entry? name <;> simp [at?, found]

end FileTree

namespace Path

variable {base : Path} {name : Text} (isName : IsName name) (nonempty : base ≠ [])
include isName nonempty

theorem exists_join : ∃ slash, join base name = base ++ (slash ++ name) ∧
    (base.getLast? = some '/' ∧ slash = [] ∨ slash = ['/']) := by
  have relative := isAbsolute_of_isName isName
  by_cases ends : base.getLast? = some '/'
  · exact ⟨[], by simp [join, relative, nonempty, ends], Or.inl ⟨ends, rfl⟩⟩
  · exact ⟨['/'], by simp [join, relative, nonempty, ends], Or.inr rfl⟩

theorem exists_splitOn_join : ∃ parts, Text.splitOn '/' (join base name) = parts ++ [name] ∧
    (Text.splitOn '/' base = parts ∨ Text.splitOn '/' base = parts ++ [[]]) := by
  have single := Text.splitOn_of_absent isName.1
  obtain ⟨slash, joined, (⟨ends, rfl⟩ | rfl)⟩ := exists_join isName nonempty
  · obtain ⟨front, rfl⟩ := List.getLast?_eq_some_iff.mp ends
    refine ⟨Text.splitOn '/' front, ?_, Or.inr ?_⟩
    · rw [joined, List.append_assoc, List.singleton_append, List.nil_append,
        Text.splitOn_append_separator, single]
    · exact Text.splitOn_append_separator front []
  · refine ⟨Text.splitOn '/' base, ?_, Or.inl rfl⟩
    rw [joined, List.singleton_append, Text.splitOn_append_separator, single]

end Path

namespace Disk

variable (disk : Disk) {name : Text}

def base? (path : Path) : Option FileTree :=
  if path = [] then disk.root.at? disk.current else disk.node? path

def reached? : Except ReadFailure (List Text) → Option FileTree
  | .ok names => disk.root.at? names
  | .error _ => none

theorem node?_eq (path : Path) : disk.node? path = disk.reached? (disk.locate path) := by
  rw [node?]
  split <;> simp [reached?, *]

theorem reached?_follow (isName : Path.IsName name) (short : Text.width name ≤ 255)
    (names : List Text) :
    disk.reached? (disk.follow names name) =
      (disk.root.at? names).bind fun store => store.entry? name := by
  obtain ⟨-, nonempty, notCurrent, notParent⟩ := isName
  have notLong : ¬ 255 < Text.width name := Nat.not_lt.mpr short
  cases here : disk.root.at? names with
  | none => simp [reached?, follow, here]
  | some tree =>
    cases tree with
    | file content => simp [reached?, follow, here, FileTree.entry?]
    | directory entries =>
      by_cases listed : entries.any (·.1 == name)
      · simp [reached?, follow, here, nonempty, notCurrent, notParent, notLong, listed,
          FileTree.at?_append, FileTree.at?_singleton]
      · have absent : entries.find? (·.1 == name) = none := List.find?_eq_none.mpr
          fun entry member named => listed (List.any_eq_true.mpr ⟨entry, member, named⟩)
        simp [reached?, follow, here, nonempty, notCurrent, notParent, notLong, listed,
          FileTree.entry?, absent]

theorem reached?_follow_nil (names : List Text) (name : Text) :
    (disk.reached? (disk.follow names [])).bind (fun store => store.entry? name) =
      (disk.root.at? names).bind fun store => store.entry? name := by
  cases here : disk.root.at? names with
  | none => simp [reached?, follow, here]
  | some tree =>
    cases tree with
    | file content => simp [reached?, follow, here, FileTree.entry?]
    | directory entries => simp [reached?, follow, here]

theorem locate_eq {path : Path} (noNul : '\x00' ∉ path) (nonempty : path ≠ [])
    (short : Text.width path < 4096) :
    disk.locate path = (Text.splitOn '/' path).foldlM disk.follow
      (if Path.isAbsolute path then [] else disk.current) := by
  simp [locate, noNul, nonempty, Nat.not_le.mpr short]

theorem reached?_foldlM_snoc {parts : List Text} {start : List Text} {last : Text} :
    disk.reached? ((parts ++ [last]).foldlM disk.follow start) =
      match parts.foldlM disk.follow start with
      | .ok names => disk.reached? (disk.follow names last)
      | .error _ => none := by
  rw [List.foldlM_append]
  cases parts.foldlM disk.follow start with
  | error cause => rfl
  | ok names =>
    cases reached : disk.follow names last <;>
      simp [bind, Except.bind, reached, pure, Except.pure]

theorem node?_join (isName : Path.IsName name) (short : Text.width name ≤ 255)
    (noNul : '\x00' ∉ name) {path : Path} (fits : Text.width (Path.join path name) < 4096) :
    disk.node? (Path.join path name) = (disk.base? path).bind fun store => store.entry? name := by
  have relative := Path.isAbsolute_of_isName isName
  have single := Text.splitOn_of_absent isName.1
  rw [node?_eq, base?, node?_eq]
  by_cases empty : path = []
  · have joined : Path.join path name = name := by simp [Path.join, empty]
    rw [joined] at fits ⊢
    rw [locate_eq disk noNul isName.2.1 fits, relative, single, if_pos empty]
    simpa using disk.reached?_follow isName short disk.current
  · obtain ⟨slash, joined, atEnd⟩ := Path.exists_join isName empty
    obtain ⟨parts, joinedParts, parts_eq⟩ := Path.exists_splitOn_join isName empty
    rw [if_neg empty]
    by_cases nul : '\x00' ∈ path
    · simp [locate, joined, nul, reached?]
    · have noSlashNul : '\x00' ∉ slash := by
        rcases atEnd with ⟨-, rfl⟩ | rfl <;> decide
      have joinedNul : '\x00' ∉ Path.join path name := by simp [joined, nul, noSlashNul, noNul]
      have shorter : Text.width path < 4096 := by
        rw [joined, Text.width_append] at fits
        omega
      have joinedNonempty : Path.join path name ≠ [] := by simp [joined, empty]
      have sameStart : Path.isAbsolute (Path.join path name) = Path.isAbsolute path := by
        rw [joined, Path.isAbsolute_append empty]
      rw [locate_eq disk joinedNul joinedNonempty fits, locate_eq disk nul empty shorter,
        joinedParts, sameStart, reached?_foldlM_snoc]
      cases parts_eq with
      | inl same =>
        rw [same]
        cases parts.foldlM disk.follow (if Path.isAbsolute path then [] else disk.current) with
        | error cause => rfl
        | ok names => exact disk.reached?_follow isName short names
      | inr ended =>
        rw [ended, reached?_foldlM_snoc]
        cases parts.foldlM disk.follow (if Path.isAbsolute path then [] else disk.current) with
        | error cause => rfl
        | ok names =>
          exact (disk.reached?_follow isName short names).trans
            (disk.reached?_follow_nil names name).symm

-- What a file system takes for the name of an entry.
def IsEntryName (name : Text) : Prop :=
  Path.IsName name ∧ '\x00' ∉ name ∧ Text.width name ≤ 255

instance (name : Text) : Decidable (IsEntryName name) :=
  inferInstanceAs (Decidable (_ ∧ _ ∧ _))

theorem node?_of_long {path : Path} (long : 4096 ≤ Text.width path) : disk.node? path = none := by
  have failed : ∃ cause, disk.locate path = .error cause := by
    simp only [locate, if_pos long]
    split
    · exact ⟨_, rfl⟩
    · split <;> exact ⟨_, rfl⟩
  obtain ⟨cause, failed⟩ := failed
  simp only [node?, failed]

-- A way from a directory to itself, as long as one likes.
def dots (count : Nat) : Path := (List.replicate count ['.', '/']).flatten

theorem dots_succ (count : Nat) : dots (count + 1) = '.' :: '/' :: dots count := by
  simp [dots, List.replicate_succ]

theorem width_dots (count : Nat) : Text.width (dots count) = 2 * count := by
  induction count with
  | zero => rfl
  | succ count ih =>
    have sizes : ('.').utf8Size = 1 ∧ ('/').utf8Size = 1 := by decide
    rw [dots_succ, Text.width_cons, Text.width_cons, ih, sizes.1, sizes.2]
    omega

theorem node?_dots {entries : List (Text × FileTree)}
    (stands : disk.root.at? disk.current = some (.directory entries)) {path : Path}
    (isRelative : Path.isAbsolute path = false) (nonempty : path ≠ []) (noNul : '\x00' ∉ path)
    {count : Nat} (fits : 2 * count + Text.width path < 4096) :
    disk.node? (dots count ++ path) = disk.node? path := by
  have parts : (Text.splitOn '/' (dots count ++ path)).foldlM disk.follow disk.current =
      (Text.splitOn '/' path).foldlM disk.follow disk.current := by
    clear fits
    induction count with
    | zero => rfl
    | succ count ih =>
      have stays : disk.follow disk.current ['.'] = .ok disk.current := by
        simp [follow, stands]
      have split : Text.splitOn '/' (dots (count + 1) ++ path) =
          ['.'] :: Text.splitOn '/' (dots count ++ path) := by
        rw [dots_succ]
        exact Text.splitOn_append_separator ['.'] (dots count ++ path)
      rw [split, List.foldlM_cons, stays]
      exact ih
  have noNulWhole : '\x00' ∉ dots count ++ path := by
    simp [dots, noNul]
  have relativeWhole : Path.isAbsolute (dots count ++ path) = false := by
    cases count with
    | zero => exact isRelative
    | succ count => rw [dots_succ]; rfl
  have short : Text.width (dots count ++ path) < 4096 := by
    rwa [Text.width_append, width_dots]
  rw [node?_eq, node?_eq, locate_eq disk noNulWhole (by simp [nonempty]) short,
    locate_eq disk noNul nonempty (by omega), relativeWhole, isRelative]
  simp only [Bool.false_eq_true, if_false, parts]

theorem width_le_join (base relative : Path) (isRelative : Path.isAbsolute relative = false) :
    Text.width base ≤ Text.width (Path.join base relative) := by
  simp only [Path.join, isRelative, Bool.false_or]
  split
  · next empty => simp [List.isEmpty_iff.mp empty]
  · split <;> simp

theorem width_le_foldl_join {names : List Text} (areNames : ∀ name ∈ names, IsEntryName name)
    (base : Path) : Text.width base ≤ Text.width (names.foldl Path.join base) := by
  induction names generalizing base with
  | nil => exact Nat.le_refl _
  | cons name names ih =>
    have relative := Path.isAbsolute_of_isName (areNames name (by simp)).1
    exact Nat.le_trans (width_le_join base name relative)
      (ih (fun other member => areNames other (by simp [member])) (Path.join base name))

theorem node?_foldl_join {names : List Text} (areNames : ∀ name ∈ names, IsEntryName name)
    {path : Path} (nonempty : path ≠ [])
    (fits : Text.width (names.foldl Path.join path) < 4096) :
    disk.node? (names.foldl Path.join path) = (disk.node? path).bind (·.at? names) := by
  induction names generalizing path with
  | nil => simp [FileTree.at?]
  | cons name names ih =>
    obtain ⟨isName, noNul, short⟩ := areNames name (by simp)
    have others (other : Text) (member : other ∈ names) : IsEntryName other :=
      areNames other (by simp [member])
    have below : Path.join path name ≠ [] := by
      obtain ⟨slash, joined, -⟩ := Path.exists_join isName nonempty
      simp [joined, nonempty]
    have firstFits := Nat.lt_of_le_of_lt (width_le_foldl_join others (Path.join path name)) fits
    rw [List.foldl_cons, ih others below fits, disk.node?_join isName short noNul firstFits, base?,
      if_neg nonempty]
    cases disk.node? path <;> rfl

end Disk

end CourseLint
