import CourseLint.Files.Disk

set_option autoImplicit false

namespace CourseLint

namespace FileTree

def listing? : FileTree → Option (Text → Bool)
  | .file _ => none
  | .directory entries => some fun name => entries.any (·.1 == name)

def content? : FileTree → Option Content
  | .file content => some content
  | .directory _ => none

theorem lookup_directory (entries : List (Text × FileTree)) (name : Text) :
    FileTree.entry? (directory entries) name = (entries.find? (·.1 == name)).map (·.2) :=
  rfl

theorem lookup_file (content : Content) (name : Text) :
    FileTree.entry? (file content) name = none :=
  rfl

theorem found_putEntry_self (name : Text) (tree : FileTree) (entries : List (Text × FileTree)) :
    FileTree.entry? (directory (putEntry name tree entries)) name = some tree := by
  induction entries with
  | nil => simp [putEntry, lookup_directory]
  | cons other others ih =>
    rw [putEntry]
    split
    · simp [lookup_directory]
    · next elsewhere =>
      split
      · simp [lookup_directory]
      · simpa [lookup_directory, elsewhere] using ih

theorem found_putEntry_of_ne {name other : Text} (tree : FileTree)
    (entries : List (Text × FileTree)) (elsewhere : other ≠ name) :
    FileTree.entry? (directory (putEntry name tree entries)) other =
      FileTree.entry? (directory entries) other := by
  have notName : name ≠ other := Ne.symm elsewhere
  induction entries with
  | nil => simp [putEntry, lookup_directory, notName]
  | cons first others ih =>
    rw [putEntry]
    split
    · next same => simp [lookup_directory, notName, same]
    · split
      · simp [lookup_directory, notName]
      · by_cases found : first.1 = other
        · simp [lookup_directory, found]
        · simpa [lookup_directory, found] using ih

theorem any_putEntry {name : Text} {entries : List (Text × FileTree)}
    (present : entries.any (·.1 == name) = true) (tree : FileTree) (other : Text) :
    (putEntry name tree entries).any (·.1 == other) = entries.any (·.1 == other) := by
  induction entries with
  | nil => simp at present
  | cons first others ih =>
    rw [putEntry]
    split
    · next same => simp [same]
    · next elsewhere =>
      have later : others.any (·.1 == name) = true := by simpa [elsewhere] using present
      split
      · by_cases same : name = other
        · subst same
          simp [later]
        · simp [same]
      · simp [ih later]

theorem any_of_found {name : Text} {entries : List (Text × FileTree)} {tree : FileTree}
    (found : FileTree.entry? (directory entries) name = some tree) :
    entries.any (·.1 == name) = true := by
  obtain ⟨entry, isFirst, -⟩ := Option.map_eq_some_iff.mp found
  have named := List.find?_some isFirst
  exact List.any_eq_true.mpr ⟨entry, List.mem_of_find?_eq_some isFirst, named⟩

theorem at?_put_self (new : FileTree) (names : List Text) (tree : FileTree) :
    (put new names tree).at? names = some new := by
  induction names generalizing tree with
  | nil => rfl
  | cons name names ih =>
    simp only [put, at?, found_putEntry_self, Option.bind_some]
    exact ih _

theorem at?_put_of_ne {β : Type} (view : FileTree → β)
    (shallow : ∀ name tree tree' entries, FileTree.entry? (directory entries) name = some tree →
      view (directory (putEntry name tree' entries)) = view (directory entries))
    (new : Content) {content : Content} {names other : List Text} {tree : FileTree}
    (isFile : tree.at? names = some (.file content)) (elsewhere : other ≠ names) :
    ((put (.file new) names tree).at? other).map view = (tree.at? other).map view := by
  induction names generalizing tree other with
  | nil =>
    obtain rfl := Option.some.inj isFile
    cases other with
    | nil => exact absurd rfl elsewhere
    | cons name others => rfl
  | cons name names ih =>
    obtain ⟨sub, found, isFileBelow⟩ := Option.bind_eq_some_iff.mp isFile
    cases tree with
    | file content => simp [lookup_file] at found
    | directory entries =>
      simp only [put, found, Option.getD_some]
      cases other with
      | nil => exact congrArg some (shallow name sub _ entries found)
      | cons first others =>
        by_cases same : first = name
        · subst same
          have deeper : others ≠ names := fun equal => elsewhere (by rw [equal])
          rw [at?, found_putEntry_self, at?, found, Option.bind_some, Option.bind_some]
          exact ih isFileBelow deeper
        · rw [at?, found_putEntry_of_ne _ _ same, at?]

theorem listing?_at?_put (new : Content) {content : Content} {names : List Text} {tree : FileTree}
    (isFile : tree.at? names = some (.file content)) (other : List Text) :
    ((put (.file new) names tree).at? other).map listing? = (tree.at? other).map listing? := by
  by_cases same : other = names
  · rw [same, at?_put_self, isFile]
    rfl
  · refine at?_put_of_ne listing? ?_ new isFile same
    intro name sub sub' entries found
    exact congrArg some (funext fun other => any_putEntry (any_of_found found) sub' other)

end FileTree

namespace Disk

open FileTree

theorem follow_eq (disk : Disk) (names : List Text) (part : Text) :
    disk.follow names part =
      match (disk.root.at? names).map listing? with
      | some (some lists) =>
        if part = [] ∨ part = ['.'] then .ok names
        else if part = ['.', '.'] then .ok names.dropLast
        else if 255 < Text.width part then .error .nameTooLong
        else if lists part then .ok (names ++ [part])
        else .error .notFound
      | _ => .error .notDirectory := by
  rw [follow]
  cases disk.root.at? names with
  | none => rfl
  | some tree => cases tree <;> rfl

theorem readText_eq (disk : Disk) (path : Path) :
    disk.readText path = (do
      let names ← disk.locate path
      match (disk.root.at? names).map content? with
      | some (some content) =>
        match content.source? with
        | some source => pure source
        | none => throw .notText
      | some none => throw .isDirectory
      | none => throw .notFound) := by
  rw [readText]
  refine congrArg (disk.locate path).bind (funext fun names => ?_)
  cases disk.root.at? names with
  | none => rfl
  | some tree => cases tree <;> rfl

theorem isWritable_iff (disk : Disk) (path : Path) :
    disk.isWritable path = true ↔ ∃ names content, disk.locate path = .ok names ∧
      disk.root.at? names = some (.file content) ∧ content.isWritable = true := by
  rw [isWritable, node?]
  cases disk.locate path with
  | error cause => simp
  | ok names =>
    cases found : disk.root.at? names with
    | none => simp [found]
    | some tree => cases tree <;> simp [found]

theorem isWritable_eq (disk : Disk) (path : Path) :
    disk.isWritable path =
      match disk.locate path with
      | .ok names =>
        match (disk.root.at? names).map content? with
        | some (some content) => content.isWritable
        | _ => false
      | .error _ => false := by
  rw [isWritable, node?]
  cases disk.locate path with
  | error cause => rfl
  | ok names =>
    cases found : disk.root.at? names with
    | none => simp [found]
    | some tree => cases tree <;> simp [found, content?]

theorem overwrite?_eq_none {disk : Disk} {path : Path} (sealed : disk.isWritable path = false)
    (text : Text) : disk.overwrite? path text = none := by
  rw [overwrite?]
  cases disk.locate path <;> simp [sealed]

theorem exists_overwrite? {disk : Disk} {path : Path} (writable : disk.isWritable path = true)
    (text : Text) : ∃ written, disk.overwrite? path text = some written := by
  obtain ⟨names, -, located, -⟩ := (isWritable_iff disk path).mp writable
  simp only [overwrite?, located, writable, if_true]
  exact ⟨_, rfl⟩

section Overwrite

variable {disk written : Disk} {path : Path} {text : Text}
  (writes : disk.overwrite? path text = some written)

include writes

theorem exists_place_of_overwrite? : ∃ names content, disk.locate path = .ok names ∧
    disk.root.at? names = some (.file content) ∧
      written = { disk with root := put (.file (.text text)) names disk.root } := by
  rw [overwrite?] at writes
  cases located : disk.locate path with
  | error cause => simp [located] at writes
  | ok names =>
    simp only [located] at writes
    split at writes
    · next writable =>
      obtain ⟨here, content, isHere, isFile, -⟩ := (isWritable_iff disk path).mp writable
      obtain rfl := Except.ok.inj (located.symm.trans isHere)
      exact ⟨names, content, rfl, isFile, (Option.some.inj writes).symm⟩
    · cases writes

theorem locate_overwrite (other : Path) : written.locate other = disk.locate other := by
  obtain ⟨names, content, -, isFile, rfl⟩ := exists_place_of_overwrite? writes
  have sameFollow : Disk.follow { disk with root := put (.file (.text text)) names disk.root } =
      disk.follow := by
    funext here part
    simp only [follow_eq, listing?_at?_put _ isFile]
  simp only [locate, sameFollow]

theorem readText_overwrite : written.readText path = .ok text := by
  have sameLocate := locate_overwrite writes path
  obtain ⟨names, content, located, -, rfl⟩ := exists_place_of_overwrite? writes
  rw [readText, sameLocate, located]
  simp only [bind, Except.bind, at?_put_self]
  rfl

theorem readText_overwrite_elsewhere {other : Path}
    (elsewhere : disk.locate other ≠ disk.locate path) :
    written.readText other = disk.readText other := by
  have sameLocate := locate_overwrite writes other
  obtain ⟨names, content, located, isFile, rfl⟩ := exists_place_of_overwrite? writes
  rw [readText_eq, readText_eq, sameLocate]
  cases locatedOther : disk.locate other with
  | error cause => rfl
  | ok others =>
    have distinct : others ≠ names := by
      rintro rfl
      exact elsewhere (locatedOther.trans located.symm)
    have sameContent := at?_put_of_ne content? (fun _ _ _ _ _ => rfl) (.text text) isFile distinct
    simp only [bind, Except.bind, sameContent]

end Overwrite

end Disk

end CourseLint
