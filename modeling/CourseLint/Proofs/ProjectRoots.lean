import CourseLint.Project
import CourseLint.Proofs.JoinedLookups
import CourseLint.Proofs.ParentPaths

set_option autoImplicit false

namespace CourseLint

namespace Project

-- A mark counts as far as the system takes the path that leads to it.
def Marks (path : Path) (tree : FileTree) : Prop :=
  (Text.width (Path.join path configName) < 4096 ∧
      ∃ content, tree.entry? configName = some (.file content)) ∨
    Text.width (Path.join path ".git") < 4096 ∧ ∃ store, tree.entry? ".git" = some store

theorem isFile_join_iff (disk : Disk) {name : Text} (isName : Disk.IsEntryName name) (path : Path) :
    disk.isFile (Path.join path name) = true ↔
      Text.width (Path.join path name) < 4096 ∧
        ∃ tree content, disk.base? path = some tree ∧ tree.entry? name = some (.file content) := by
  by_cases fits : Text.width (Path.join path name) < 4096
  · rw [Disk.isFile, disk.node?_join isName.1 isName.2.2 isName.2.1 fits]
    cases disk.base? path with
    | none => simp
    | some tree =>
      cases found : tree.entry? name with
      | none => simp [found]
      | some entry => cases entry <;> simp [found, fits, FileTree.isDirectory]
  · simp [Disk.isFile, disk.node?_of_long (Nat.not_lt.mp fits), fits]

theorem fileExists_join_iff (disk : Disk) {name : Text} (isName : Disk.IsEntryName name)
    (path : Path) :
    disk.fileExists (Path.join path name) = true ↔
      Text.width (Path.join path name) < 4096 ∧
        ∃ tree entry, disk.base? path = some tree ∧ tree.entry? name = some entry := by
  by_cases fits : Text.width (Path.join path name) < 4096
  · rw [Disk.fileExists, disk.node?_join isName.1 isName.2.2 isName.2.1 fits]
    cases disk.base? path <;> simp [fits, Option.isSome_iff_exists]
  · simp [Disk.fileExists, disk.node?_of_long (Nat.not_lt.mp fits), fits]

theorem isRoot_iff (disk : Disk) (path : Path) :
    isRoot disk path = true ↔ ∃ tree, disk.base? path = some tree ∧ Marks path tree := by
  rw [isRoot, Bool.or_eq_true, isFile_join_iff disk (by decide), fileExists_join_iff disk (by decide)]
  constructor
  · rintro (⟨fits, tree, content, stands, found⟩ | ⟨fits, tree, entry, stands, found⟩)
    · exact ⟨tree, stands, .inl ⟨fits, content, found⟩⟩
    · exact ⟨tree, stands, .inr ⟨fits, entry, found⟩⟩
  · rintro ⟨tree, stands, ⟨fits, content, found⟩ | ⟨fits, entry, found⟩⟩
    · exact .inl ⟨fits, tree, content, stands, found⟩
    · exact .inr ⟨fits, tree, entry, stands, found⟩

theorem ascent_ancestors {count : Nat} {path : Path}
    (enough : (Path.components path).length ≤ count) :
    Path.Ascent path (ancestors count path) := by
  induction count generalizing path with
  | zero =>
    have nothing := List.eq_nil_of_length_eq_zero (Nat.le_zero.mp enough)
    exact .top path ((Path.parent?_eq_none_iff path).mpr (Or.inl nothing))
  | succ count ih =>
    rw [ancestors]
    split
    · next isTop => exact .top path isTop
    · next parent isParent =>
      apply Path.Ascent.up path parent _ isParent (ih _)
      rw [Path.components_of_parent? isParent, List.length_dropLast]
      omega

theorem findRoot?_nearest (disk : Disk) (start : Path) :
    ∃ paths, (∀ ascent, Path.Ascent start ascent ↔ ascent = paths) ∧
      (∀ steps path, paths[steps]? = some path → path <+: start ∧ Path.components path =
        (Path.components start).take ((Path.components start).length - steps)) ∧
      (∃ top, paths.getLast? = some top ∧
        if Path.isAbsolute start then Path.components top = [.root] else top = []) ∧
      (∀ root, findRoot? disk start = some root ↔
        ∃ nearer further, paths = nearer ++ root :: further ∧ isRoot disk root = true ∧
          ∀ path ∈ nearer, isRoot disk path = false) ∧
      (findRoot? disk start = none ↔ ∀ path ∈ paths, isRoot disk path = false) ∧
      ∀ path, isRoot disk path = true ↔
        ∃ tree, disk.base? path = some tree ∧
          ((Text.width (Path.join path configName) < 4096 ∧
              ∃ content, tree.entry? configName = some (.file content)) ∨
            Text.width (Path.join path ".git") < 4096 ∧
              ∃ store, tree.entry? ".git" = some store) := by
  have ascent := ascent_ancestors (Path.length_components_le start)
  refine ⟨ancestors start.length start, ?_, ?_, ascent.exists_top, ?_, ?_, ?_⟩
  · intro other
    constructor
    · exact fun ascent' => ascent.unique ascent'
    · exact fun same => same ▸ ascent
  · exact fun steps path isReached => ascent.reached isReached
  · intro root
    rw [findRoot?, List.find?_eq_some_iff_append]
    constructor
    · intro found
      obtain ⟨marked, nearer, further, parts, unmarked⟩ := found
      exact ⟨nearer, further, parts, marked, by simpa using unmarked⟩
    · intro found
      obtain ⟨nearer, further, parts, marked, unmarked⟩ := found
      exact ⟨marked, nearer, further, parts, by simpa using unmarked⟩
  · simp [findRoot?]
  · exact isRoot_iff disk

example :
    let disk : Disk := ⟨.directory [("w".toList, .directory [
      (configName, .file (.text [])),
      ("sub".toList, .directory [(".git".toList, .directory []), ("x".toList, .directory [])])])],
      ["w".toList]⟩
    findRoot? disk "sub/./x/" = some "sub".toList ∧ findRoot? disk "y" = some [] ∧
      findRoot? disk "/y" = none := by
  decide +kernel

def longStart : Path := Disk.dots 2046 ++ ['x']

def storeDisk : Disk := ⟨.directory [("x", .directory [(".git", .directory [])])], []⟩

theorem findRoot?_passes_by :
    (∃ tree, storeDisk.base? longStart = some tree ∧ tree.entry? ".git" = some (.directory [])) ∧
      findRoot? storeDisk longStart ≠ some longStart := by
  have stands : storeDisk.base? longStart = some (.directory [(".git", .directory [])]) := by
    rw [Disk.base?, if_neg (by simp [longStart]), longStart,
      storeDisk.node?_dots rfl rfl (by decide) (by decide) (by decide)]
    rfl
  have tooLong {name : Text} (isRelative : Path.isAbsolute name = false)
      (wide : 3 ≤ Text.width name) : ¬ Text.width (Path.join longStart name) < 4096 := by
    have sizes : Text.width ['x'] = 1 ∧ ('/').utf8Size = 1 := by decide
    rw [Path.join, isRelative, longStart, if_neg (by simp), if_neg (by simp), Text.width_append,
      Text.width_append, Disk.width_dots, sizes.1, Text.width_cons, sizes.2]
    omega
  refine ⟨⟨_, stands, rfl⟩, ?_⟩
  intro found
  obtain ⟨_, -, ⟨fits, -⟩ | ⟨fits, -⟩⟩ := (isRoot_iff storeDisk longStart).mp (List.find?_some found)
  · exact tooLong (by decide) (by decide) fits
  · exact tooLong (by decide) (by decide) fits

end Project

end CourseLint
