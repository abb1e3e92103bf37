import CourseLint.Bibliography.Resolved
import CourseLint.CommandLine.LintCommand
import CourseLint.Proofs.ReportContents

set_option autoImplicit false

namespace CourseLint.CommandLine

def findings (results : List (Except Error (List Diagnostic))) : List Diagnostic :=
  results.flatMap fun
    | .ok diagnostics => diagnostics
    | .error _ => []

def failures (results : List (Except Error (List Diagnostic))) : List Error :=
  results.filterMap fun
    | .ok _ => none
    | .error cause => some cause

@[simp] theorem findings_ok (diagnostics : List Diagnostic)
    (results : List (Except Error (List Diagnostic))) :
    findings (.ok diagnostics :: results) = diagnostics ++ findings results := rfl

@[simp] theorem findings_error (cause : Error)
    (results : List (Except Error (List Diagnostic))) :
    findings (.error cause :: results) = findings results := rfl

@[simp] theorem failures_ok (diagnostics : List Diagnostic)
    (results : List (Except Error (List Diagnostic))) :
    failures (.ok diagnostics :: results) = failures results := rfl

@[simp] theorem failures_error (cause : Error)
    (results : List (Except Error (List Diagnostic))) :
    failures (.error cause :: results) = cause :: failures results := rfl

theorem findings_append (results others : List (Except Error (List Diagnostic))) :
    findings (results ++ others) = findings results ++ findings others :=
  List.flatMap_append

section Results

variable [Bibliography.Reader]

def lintEach (disk : Disk) (registry : Registry) (snippets : Path) (paths : List Path) :
    List (Except Error (List Diagnostic)) :=
  paths.map (lintFile disk registry snippets)

@[simp] theorem lintEach_cons (disk : Disk) (registry : Registry) (snippets path : Path)
    (paths : List Path) :
    lintEach disk registry snippets (path :: paths) =
      lintFile disk registry snippets path :: lintEach disk registry snippets paths := rfl

theorem lintEach_append (disk : Disk) (registry : Registry) (snippets : Path)
    (paths others : List Path) :
    lintEach disk registry snippets (paths ++ others) =
      lintEach disk registry snippets paths ++ lintEach disk registry snippets others :=
  List.map_append

variable {disk : Disk} {registry : Registry} {snippets : Path} {paths : List Path}

theorem failures_lintEach_eq_nil_iff :
    failures (lintEach disk registry snippets paths) = [] ↔
      ∀ path ∈ paths, ∃ found, lintFile disk registry snippets path = .ok found := by
  induction paths with
  | nil => simp [lintEach, failures]
  | cons path paths ih =>
    cases linted : lintFile disk registry snippets path <;> simp [linted, ih]

theorem failures_lintEach_ne_nil_iff :
    failures (lintEach disk registry snippets paths) ≠ [] ↔
      ∃ path ∈ paths, ∃ cause, lintFile disk registry snippets path = .error cause := by
  induction paths with
  | nil => simp [lintEach, failures]
  | cons path paths ih =>
    cases linted : lintFile disk registry snippets path <;> simp [linted, ih]

theorem lintOne_without_repairs (disk : Disk) (registry : Registry) (snippets path : Path) :
    lintOne disk registry snippets false path =
      ⟨disk, [], lintFile disk registry snippets path⟩ := by
  rw [lintOne]
  cases lintFile disk registry snippets path <;> simp

theorem lintAll_without_repairs (disk : Disk) (registry : Registry) (snippets : Path)
    (paths : List Path) :
    lintAll registry snippets false disk paths =
      { disk := disk
        err := (failures (lintEach disk registry snippets paths)).flatMap errorLine
        diagnostics := findings (lintEach disk registry snippets paths)
        anyFailed := !(failures (lintEach disk registry snippets paths)).isEmpty } := by
  induction paths with
  | nil => rfl
  | cons path paths ih =>
    simp only [lintAll, lintOne_without_repairs, ih, lintEach_cons]
    cases lintFile disk registry snippets path <;> simp

end Results

def Failing (strict : Bool) (diagnostics : List Diagnostic) : Prop :=
  (∃ diagnostic ∈ diagnostics, diagnostic.severity = .error) ∨ strict = true ∧ diagnostics ≠ []

theorem lintExitCode_eq (anyFailed strict : Bool) (diagnostics : List Diagnostic) :
    (lintExitCode anyFailed strict diagnostics = 2 ↔ anyFailed = true) ∧
      (lintExitCode anyFailed strict diagnostics = 1 ↔
        anyFailed = false ∧ Failing strict diagnostics) ∧
      (lintExitCode anyFailed strict diagnostics = 0 ↔
        anyFailed = false ∧ ¬ Failing strict diagnostics) := by
  have failing : (diagnostics.any (·.severity == .error) || (strict && !diagnostics.isEmpty)) = true
      ↔ Failing strict diagnostics := by
    simp [Failing]
  cases anyFailed with
  | true => simp [lintExitCode]
  | false =>
    by_cases fails : Failing strict diagnostics
    · simp [lintExitCode, failing.mpr fails, fails]
    · simp [lintExitCode, Bool.eq_false_iff.mpr (mt failing.mp fails), fails]

def mixedDisk : Disk :=
  ⟨.directory [("data", .file (.binary [255])), ("refs.bib", .file (.text "@misc\x7bA".toList)),
    ("tutorial.md", .file (.text "\x7b: .no_toc\x7d\n".toList))], []⟩

def mixedArguments : LintArguments := ⟨["absent.md", ".", "data"], none, false, true, []⟩

end CourseLint.CommandLine
