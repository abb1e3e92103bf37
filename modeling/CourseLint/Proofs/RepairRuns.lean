import CourseLint.Proofs.Accounts
import CourseLint.Proofs.LintRuns
import CourseLint.Proofs.Outlines

set_option autoImplicit false

namespace CourseLint

structure Disk.SameBut (places : List Text → Prop) (disk after : Disk) : Prop where
  ordered : after.root.Ordered
  outline : after.outline = disk.outline
  contents : ∀ names, ¬ places names →
    (after.root.at? names).map FileTree.content? = (disk.root.at? names).map FileTree.content?

namespace Disk.SameBut

variable {places others : List Text → Prop} {disk between after : Disk} {path : Path}

theorem refl (ordered : disk.root.Ordered) : SameBut places disk disk :=
  ⟨ordered, rfl, fun _ _ => rfl⟩

theorem trans (first : SameBut places disk between) (second : SameBut places between after) :
    SameBut places disk after where
  ordered := second.ordered
  outline := second.outline.trans first.outline
  contents names untouched :=
    (second.contents names untouched).trans (first.contents names untouched)

theorem mono (same : SameBut places disk after) (within : ∀ names, places names → others names) :
    SameBut others disk after where
  ordered := same.ordered
  outline := same.outline
  contents names untouched := same.contents names (mt (within names) untouched)

theorem overwrite {text : Text} (ordered : disk.root.Ordered)
    (writes : disk.overwrite? path text = some after) :
    SameBut (fun names => disk.locate path = .ok names) disk after := by
  obtain ⟨here, content, located, isFile, rfl⟩ := exists_place_of_overwrite? writes
  constructor
  · have newOrdered : (FileTree.file (.text text)).Ordered := trivial
    exact FileTree.ordered_put newOrdered here ordered
  · simp only [Disk.outline, FileTree.outline_put (.text text) ordered isFile]
  · intro names untouched
    have elsewhere : names ≠ here := by
      rintro rfl
      exact untouched located
    exact FileTree.at?_put_of_ne FileTree.content? (fun _ _ _ _ _ => rfl) _ isFile elsewhere

theorem locate_eq (same : SameBut places disk after) (path : Path) :
    after.locate path = disk.locate path := by
  rw [← locate_outline after, same.outline, locate_outline]

theorem filesAt_eq (same : SameBut places disk after) (path : Path) :
    after.filesAt path = disk.filesAt path := by
  rw [← filesAt_outline after, same.outline, filesAt_outline]

theorem existsBelow_eq (same : SameBut places disk after) :
    after.existsBelow = disk.existsBelow := by
  funext directory relative
  rw [existsBelow, existsBelow, ← fileExists_outline after, same.outline, fileExists_outline]

theorem readText_eq (same : SameBut places disk after)
    (untouched : ∀ names, disk.locate path = .ok names → ¬ places names) :
    after.readText path = disk.readText path := by
  rw [Disk.readText_eq, Disk.readText_eq, same.locate_eq]
  cases located : disk.locate path with
  | error cause => rfl
  | ok names => simp only [bind, Except.bind, same.contents names (untouched names located)]

theorem isWritable_eq (same : SameBut places disk after)
    (untouched : ∀ names, disk.locate path = .ok names → ¬ places names) :
    after.isWritable path = disk.isWritable path := by
  rw [Disk.isWritable_eq, Disk.isWritable_eq, same.locate_eq]
  cases located : disk.locate path with
  | error cause => rfl
  | ok names => simp only [same.contents names (untouched names located)]

theorem lintFile_eq [Bibliography.Reader] (same : SameBut places disk after)
    (untouched : ∀ names, disk.locate path = .ok names → ¬ places names) (registry : Registry)
    (snippets : Path) :
    lintFile after registry snippets path = lintFile disk registry snippets path := by
  simp only [lintFile, readSource, same.readText_eq untouched, same.existsBelow_eq]

end Disk.SameBut

theorem fixFile_cases {disk : Disk} {path : Path} {source : Text}
    (readable : disk.readText path = .ok source) {diagnostics : List Diagnostic}
    (writes : fixFile disk path diagnostics ≠ .error (.fileUnwritable path)) :
    ∃ written counts, fixFile disk path diagnostics = .ok (written, counts) ∧
      (counts.applied = 0 ∧ written = disk ∨
        counts.applied ≠ 0 ∧ ∃ text, disk.overwrite? path text = some written) := by
  have usable : ∀ edit ∈ (Edit.ofDiagnostics source diagnostics).1, edit.Usable source :=
    fun edit member => Edit.usable_of_mem_ofDiagnostics member
  obtain ⟨repaired, result, -⟩ := Edit.count_applyAll usable
  have fixed := fixFile_eq readable result
  dsimp only at fixed
  by_cases unused : repaired.applied = 0
  · rw [if_pos unused] at fixed
    exact ⟨disk, _, fixed, .inl ⟨unused, rfl⟩⟩
  · rw [if_neg unused] at fixed
    cases overwritten : disk.overwrite? path repaired.text with
    | none =>
      rw [overwritten] at fixed
      exact absurd fixed writes
    | some written =>
      rw [overwritten] at fixed
      exact ⟨written, _, fixed, .inr ⟨unused, repaired.text, overwritten⟩⟩

theorem fixFile_unwritable_iff (disk : Disk) (path : Path) (diagnostics : List Diagnostic) :
    fixFile disk path diagnostics = .error (.fileUnwritable path) ↔
      disk.isWritable path = false ∧ ∃ source repaired, disk.readText path = .ok source ∧
        Edit.applyAll source (Edit.ofDiagnostics source diagnostics).1 = some repaired ∧
        repaired.applied ≠ 0 := by
  cases read : disk.readText path with
  | error cause => simp [fixFile, readSource, read, bind, Except.bind]
  | ok source =>
    have usable : ∀ edit ∈ (Edit.ofDiagnostics source diagnostics).1, edit.Usable source :=
      fun edit member => Edit.usable_of_mem_ofDiagnostics member
    obtain ⟨repaired, result, -⟩ := Edit.count_applyAll usable
    have fixed := fixFile_eq read result
    dsimp only at fixed
    by_cases unused : repaired.applied = 0
    · rw [if_pos unused] at fixed
      simp [fixed, result, unused]
    · rw [if_neg unused] at fixed
      rw [fixed]
      cases writable : disk.isWritable path with
      | true =>
        obtain ⟨written, writes⟩ := Disk.exists_overwrite? writable repaired.text
        simp [writes]
      | false => simp [Disk.overwrite?_eq_none writable, result, unused]

theorem Disk.SameBut.fixFile_unwritable_iff {places : List Text → Prop} {disk after : Disk}
    {path : Path} (same : SameBut places disk after)
    (untouched : ∀ names, disk.locate path = .ok names → ¬ places names)
    (diagnostics : List Diagnostic) :
    fixFile after path diagnostics = .error (.fileUnwritable path) ↔
      fixFile disk path diagnostics = .error (.fileUnwritable path) := by
  rw [CourseLint.fixFile_unwritable_iff, CourseLint.fixFile_unwritable_iff,
    same.isWritable_eq untouched, same.readText_eq untouched]

namespace CommandLine

section Runs

variable [Bibliography.Reader] {disk : Disk} {registry : Registry} {snippets path : Path}
  {paths : List Path}

def AsksForRepair (disk : Disk) (registry : Registry) (snippets path : Path) : Prop :=
  ∃ found, lintFile disk registry snippets path = .ok found ∧
    ∃ diagnostic ∈ found, diagnostic.suggestion.isSome = true

theorem readable_of_asksForRepair (asks : AsksForRepair disk registry snippets path) :
    ∃ source, disk.readText path = .ok source := by
  obtain ⟨found, linted, diagnostic, member, -⟩ := asks
  rw [lintFile] at linted
  split at linted
  · obtain rfl := Except.ok.inj linted
    simp at member
  · cases read : disk.readText path with
    | ok source => exact ⟨source, rfl⟩
    | error cause => simp [readSource, read, bind, Except.bind] at linted

def WritesBack (disk : Disk) (registry : Registry) (snippets path : Path) : Prop :=
  ∀ found, lintFile disk registry snippets path = .ok found →
    fixFile disk path found ≠ .error (.fileUnwritable path)

theorem lintOne_leaves (ordered : disk.root.Ordered)
    (writes : WritesBack disk registry snippets path) (fix : Bool) :
    let file := lintOne disk registry snippets fix path
    file.result = lintFile file.disk registry snippets path ∧
      Disk.SameBut
        (fun names => AsksForRepair disk registry snippets path ∧ disk.locate path = .ok names)
        disk file.disk := by
  cases linted : lintFile disk registry snippets path with
  | error cause =>
    simp only [lintOne, linted]
    exact ⟨trivial, .refl ordered⟩
  | ok found =>
    simp only [lintOne, linted]
    split
    · next asked =>
      have asks : AsksForRepair disk registry snippets path := by
        simp only [Bool.and_eq_true, List.any_eq_true] at asked
        exact ⟨found, linted, asked.2⟩
      obtain ⟨source, readable⟩ := readable_of_asksForRepair asks
      obtain ⟨written, counts, fixed, ⟨unused, rfl⟩ | ⟨used, text, overwritten⟩⟩ :=
        fixFile_cases readable (writes found linted)
      · simp only [repairAndLint, fixed, if_pos unused, linted]
        exact ⟨trivial, .refl ordered⟩
      · simp only [repairAndLint, fixed, if_neg used]
        have same := Disk.SameBut.overwrite ordered overwritten
        exact ⟨trivial, same.mono fun _ here => ⟨asks, here⟩⟩
    · simp only [linted]
      exact ⟨trivial, .refl ordered⟩

def LeadApart (disk : Disk) (paths : List Path) : Prop :=
  paths.Pairwise fun path other =>
    ∀ names, disk.locate path = .ok names → disk.locate other ≠ .ok names

theorem lintAll_leaves (ordered : disk.root.Ordered) (apart : LeadApart disk paths)
    (writes : ∀ path ∈ paths, WritesBack disk registry snippets path) (fix : Bool) :
    let total := lintAll registry snippets fix disk paths
    total.diagnostics = findings (lintEach total.disk registry snippets paths) ∧
      total.anyFailed = !(failures (lintEach total.disk registry snippets paths)).isEmpty ∧
      Disk.SameBut
        (fun names => ∃ path ∈ paths, AsksForRepair disk registry snippets path ∧
          disk.locate path = .ok names)
        disk total.disk := by
  induction paths generalizing disk with
  | nil => exact ⟨rfl, rfl, .refl ordered⟩
  | cons path paths ih =>
    obtain ⟨fromFirst, apartLater⟩ := List.pairwise_cons.mp apart
    obtain ⟨reported, here⟩ := lintOne_leaves ordered (writes path List.mem_cons_self) fix
    generalize isFile : lintOne disk registry snippets fix path = file at reported here
    have apartThen : LeadApart file.disk paths := by
      simpa only [LeadApart, here.locate_eq] using apartLater
    have notHere (other : Path) (member : other ∈ paths) : ∀ names, disk.locate other = .ok names →
        ¬ (AsksForRepair disk registry snippets path ∧ disk.locate path = .ok names) :=
      fun names there first => fromFirst other member names first.2 there
    have writesThen (other : Path) (member : other ∈ paths) :
        WritesBack file.disk registry snippets other := by
      intro seen linted
      rw [here.lintFile_eq (notHere other member)] at linted
      rw [Ne, here.fixFile_unwritable_iff (notHere other member)]
      exact writes other (List.mem_cons_of_mem _ member) seen linted
    obtain ⟨found, failed, later⟩ := ih here.ordered apartThen writesThen
    generalize isTotal : lintAll registry snippets fix file.disk paths = total at found failed later
    -- The files behind this one lie elsewhere, so what is written to them is not seen in it.
    have untouched : ∀ names, file.disk.locate path = .ok names →
        ¬ ∃ other ∈ paths, AsksForRepair file.disk registry snippets other ∧
          file.disk.locate other = .ok names := by
      rintro names located ⟨other, member, -, there⟩
      rw [here.locate_eq] at located there
      exact fromFirst other member names located there
    have again : lintFile total.disk registry snippets path = file.result := by
      rw [later.lintFile_eq untouched, reported]
    have asked : ∀ other ∈ paths, AsksForRepair file.disk registry snippets other →
        AsksForRepair disk registry snippets other := by
      rintro other member ⟨seen, linted, suggests⟩
      rw [here.lintFile_eq (notHere other member)] at linted
      exact ⟨seen, linted, suggests⟩
    have whole : Disk.SameBut
        (fun names => ∃ other ∈ path :: paths, AsksForRepair disk registry snippets other ∧
          disk.locate other = .ok names) disk total.disk := by
      refine (here.mono ?_).trans (later.mono ?_)
      · intro names written
        exact ⟨path, by simp, written⟩
      · rintro names ⟨other, member, asks, there⟩
        rw [here.locate_eq] at there
        exact ⟨other, List.mem_cons_of_mem _ member, asked other member asks, there⟩
    simp only [lintAll, isFile, isTotal, lintEach_cons]
    cases result : file.result with
    | ok diagnostics =>
      rw [result] at again
      exact ⟨by simp [again, found], by simp [again, failed], whole⟩
    | error cause =>
      rw [result] at again
      exact ⟨by simp [again, found], by simp [again], whole⟩

def NothingToRepair (disk : Disk) (registry : Registry) (snippets path : Path) : Prop :=
  FileKind.ofPath path = .unsupported ∨ (∃ cause, disk.readText path = .error cause) ∨
    (∃ cause, lintFile disk registry snippets path = .error cause) ∨
    ∃ found, lintFile disk registry snippets path = .ok found ∧
      ∀ diagnostic ∈ found, diagnostic.suggestion = none

theorem not_asksForRepair (nothing : NothingToRepair disk registry snippets path) :
    ¬ AsksForRepair disk registry snippets path := by
  intro asks
  obtain ⟨source, readable⟩ := readable_of_asksForRepair asks
  obtain ⟨found, linted, diagnostic, member, suggests⟩ := asks
  rcases nothing with unsupported | ⟨cause, unreadable⟩ | ⟨cause, failed⟩ | ⟨seen, again, none⟩
  · rw [lintFile, if_pos unsupported] at linted
    obtain rfl := Except.ok.inj linted
    simp at member
  · simp [readable] at unreadable
  · simp [linted] at failed
  · obtain rfl := Except.ok.inj (linted.symm.trans again)
    simp [none diagnostic member] at suggests

end Runs

theorem repairs_are_reported_truly [Bibliography.Reader] [Pattern.Engine] [Report.Writer]
    [Report.LawfulWriter] (disk : Disk) (root : Path) (config : Config) (color : Bool)
    (arguments : LintArguments) (ordered : disk.root.Ordered)
    (apart : LeadApart disk (arguments.paths.flatMap disk.filesAt))
    (writes : ∀ path ∈ arguments.paths.flatMap disk.filesAt,
      WritesBack disk (registryFor config arguments) (snippetDirectory root config) path) :
    let repairing := runLint disk root config color { arguments with fix := true }
    let after := repairing.disk
    let looking := runLint after root config color { arguments with fix := false }
    repairing.out = looking.out ∧ repairing.exitCode = looking.exitCode ∧
      Report.Tells
        (findings (lintEach after (registryFor config arguments) (snippetDirectory root config)
          (arguments.paths.flatMap after.filesAt)))
        repairing.out (reportFormat config arguments) ∧
      after.outline = disk.outline ∧
      ∀ names content, disk.root.at? names = some (.file content) →
        (∀ path ∈ arguments.paths.flatMap disk.filesAt, disk.locate path = .ok names →
          NothingToRepair disk (registryFor config arguments) (snippetDirectory root config) path) →
        after.root.at? names = some (.file content) := by
  intro repairing after looking
  obtain ⟨found, failed, same⟩ := lintAll_leaves ordered apart writes true
  have isAfter : (lintAll (registryFor config arguments) (snippetDirectory root config) true disk
      (arguments.paths.flatMap disk.filesAt)).disk = after := rfl
  rw [isAfter] at found failed same
  have sameFiles : arguments.paths.flatMap after.filesAt = arguments.paths.flatMap disk.filesAt := by
    rw [funext same.filesAt_eq]
  have isLooking : looking =
      { exitCode := repairing.exitCode
        out := repairing.out
        err := (failures (lintEach after (registryFor config arguments)
          (snippetDirectory root config) (arguments.paths.flatMap disk.filesAt))).flatMap errorLine
        disk := after } := by
    simp only [looking, repairing, runLint, sameFiles, lintAll_without_repairs]
    simp only [registryFor] at found failed ⊢
    rw [found, failed]
    rfl
  refine ⟨by rw [isLooking], by rw [isLooking], ?_, same.outline, ?_⟩
  · rw [sameFiles, ← found]
    exact Report.report_tells _ color _
  intro names content isFile nothing
  have unasked : ¬ ∃ path ∈ arguments.paths.flatMap disk.filesAt,
      AsksForRepair disk (registryFor config arguments) (snippetDirectory root config) path ∧
        disk.locate path = .ok names := by
    rintro ⟨path, member, asks, located⟩
    exact not_asksForRepair (nothing path member located) asks
  have untouched := same.contents names unasked
  rw [isFile, Option.map_some] at untouched
  obtain ⟨tree, present, isContent⟩ := Option.map_eq_some_iff.mp untouched
  cases tree with
  | file kept => rw [present, Option.some.inj isContent]
  | directory entries => simp [FileTree.content?] at isContent

def courseDisk : Disk :=
  ⟨.directory [("data.csv", .file (.text "[here]".toList)), ("refs.bib", .file (.text "@".toList)),
    ("tutorial.md", .file (.text "[here]\n<iframe youtube\n".toList))], []⟩

def courseArguments : LintArguments := ⟨[".", "data.csv"], none, false, true, []⟩

theorem repairs_are_reported_truly_course :
    Report.LawfulWriter ∧ courseDisk.root.Ordered ∧
      LeadApart courseDisk (courseArguments.paths.flatMap courseDisk.filesAt) ∧
      (∀ path ∈ courseArguments.paths.flatMap courseDisk.filesAt, WritesBack courseDisk
        (registryFor Config.default courseArguments) (snippetDirectory [] Config.default) path) ∧
      let repairing := runLint courseDisk [] Config.default false { courseArguments with fix := true }
      let looking := runLint repairing.disk [] Config.default false
        { courseArguments with fix := false }
      repairing.err = "error: Failed to parse bibliography ./refs.bib: expected identifier: 1-1\n" ++
        "Fixed 1 issue(s) in ./tutorial.md (0 skipped)\n".toList ∧
      repairing.disk.readText "tutorial.md" =
        .ok "[Something better here]\n<iframe youtube\n".toList ∧
      repairing.out = looking.out ∧ repairing.exitCode = looking.exitCode ∧
      repairing.disk.root.at? ["data.csv"] = some (.file (.text "[here]".toList)) := by
  have ordered : courseDisk.root.Ordered :=
    ⟨by decide, trivial, by decide, trivial, by decide, trivial, trivial⟩
  have different : (courseArguments.paths.flatMap courseDisk.filesAt).Pairwise
      fun path other => courseDisk.locate path ≠ courseDisk.locate other := by
    decide +kernel
  have apart : LeadApart courseDisk (courseArguments.paths.flatMap courseDisk.filesAt) :=
    different.imp fun distinct _ here there => distinct (here.trans there.symm)
  have writable : ∀ path ∈ courseArguments.paths.flatMap courseDisk.filesAt,
      courseDisk.isWritable path = true := by
    decide +kernel
  have writes : ∀ path ∈ courseArguments.paths.flatMap courseDisk.filesAt, WritesBack courseDisk
      (registryFor Config.default courseArguments) (snippetDirectory [] Config.default) path := by
    intro path member found _ refused
    have sealed := ((fixFile_unwritable_iff courseDisk path found).mp refused).1
    simp [writable path member] at sealed
  have unsupported : ∀ path ∈ courseArguments.paths.flatMap courseDisk.filesAt,
      courseDisk.locate path = .ok ["data.csv".toList] → FileKind.ofPath path = .unsupported := by
    decide +kernel
  obtain ⟨report, code, -, -, kept⟩ :=
    repairs_are_reported_truly courseDisk [] Config.default false courseArguments ordered apart writes
  refine ⟨inferInstance, ordered, apart, writes, ?_, ?_, report, code, ?_⟩
  · decide +kernel
  · decide +kernel
  · exact kept ["data.csv".toList] (.text "[here]".toList) rfl
      fun path member located => .inl (unsupported path member located)

end CommandLine

end CourseLint
