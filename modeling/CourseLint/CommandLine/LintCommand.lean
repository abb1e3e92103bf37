import CourseLint.CommandLine.Arguments
import CourseLint.Files.Lintable
import CourseLint.LintFile
import CourseLint.Config

set_option autoImplicit false

namespace CourseLint.CommandLine

variable [Bibliography.Reader] [Pattern.Engine] [Report.Writer]

structure Outcome where
  exitCode : Nat
  out : Text
  err : Text
  disk : Disk

def registryFor (config : Config) (arguments : LintArguments) : Registry :=
  (Registry.builtins.disable (config.disable ++ arguments.disable)).1

def snippetDirectory (root : Path) (config : Config) : Path :=
  match config.snippetRoot with
  | some directory => Path.join root directory
  | none => root

def reportFormat (config : Config) (arguments : LintArguments) : ReportFormat :=
  (arguments.format <|> config.format).getD .jsonLines

structure FileResult where
  disk : Disk
  notice : Text
  result : Except Error (List Diagnostic)

def fixNotice (path : Path) (counts : FixCounts) : Text :=
  "Fixed " ++ Text.ofNat counts.applied ++ " issue(s) in " ++ path ++ " (" ++
    Text.ofNat counts.skipped ++ " skipped)\n"

def repairAndLint (disk : Disk) (registry : Registry) (snippets path : Path)
    (diagnostics : List Diagnostic) : FileResult :=
  match fixFile disk path diagnostics with
  | .error error => ⟨disk, [], .error error⟩
  | .ok (repaired, counts) =>
    if counts.applied = 0 then ⟨disk, [], .ok diagnostics⟩
    else ⟨repaired, fixNotice path counts, lintFile repaired registry snippets path⟩

def lintOne (disk : Disk) (registry : Registry) (snippets : Path) (fix : Bool) (path : Path) :
    FileResult :=
  match lintFile disk registry snippets path with
  | .error error => ⟨disk, [], .error error⟩
  | .ok diagnostics =>
    if fix && diagnostics.any (·.suggestion.isSome) then
      repairAndLint disk registry snippets path diagnostics
    else ⟨disk, [], .ok diagnostics⟩

structure Total where
  disk : Disk
  err : Text
  diagnostics : List Diagnostic
  anyFailed : Bool

def errorLine (error : Error) : Text := "error: " ++ error.message ++ "\n"

def lintAll (registry : Registry) (snippets : Path) (fix : Bool) : Disk → List Path → Total
  | disk, [] => ⟨disk, [], [], false⟩
  | disk, path :: paths =>
    let file := lintOne disk registry snippets fix path
    let total := lintAll registry snippets fix file.disk paths
    match file.result with
    | .ok diagnostics =>
      { total with
        err := file.notice ++ total.err, diagnostics := diagnostics ++ total.diagnostics }
    | .error error =>
      { total with err := file.notice ++ errorLine error ++ total.err, anyFailed := true }

def lintExitCode (anyFailed strict : Bool) (diagnostics : List Diagnostic) : Nat :=
  if anyFailed then 2
  else if diagnostics.any (·.severity == .error) || (strict && !diagnostics.isEmpty) then 1
  else 0

def runLint (disk : Disk) (root : Path) (config : Config) (color : Bool)
    (arguments : LintArguments) : Outcome :=
  let files := arguments.paths.flatMap disk.filesAt
  let total := lintAll (registryFor config arguments) (snippetDirectory root config) arguments.fix
    disk files
  { exitCode := lintExitCode total.anyFailed arguments.strict total.diagnostics
    out := (reportFormat config arguments).report color total.diagnostics
    err := total.err
    disk := total.disk }

end CourseLint.CommandLine
