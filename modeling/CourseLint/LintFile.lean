import CourseLint.Files.Disk
import CourseLint.Lint

set_option autoImplicit false

namespace CourseLint

def Disk.existsBelow (disk : Disk) (directory : Path) (relative : Text) : Bool :=
  disk.fileExists (Path.join directory relative)

def readSource (disk : Disk) (path : Path) : Except Error Text :=
  match disk.readText path with
  | .ok source => .ok source
  | .error cause => .error (.fileUnreadable path cause)

variable [Bibliography.Reader]

def lintFile (disk : Disk) (registry : Registry) (snippets : Path) (path : Path) :
    Except Error (List Diagnostic) :=
  if FileKind.ofPath path = .unsupported then .ok []
  else do
    let source ← readSource disk path
    lint registry (disk.existsBelow snippets) path source

structure FixCounts where
  applied : Nat
  skipped : Nat
  unfixable : Nat
deriving DecidableEq, Repr

def fixFile (disk : Disk) (path : Path) (diagnostics : List Diagnostic) :
    Except Error (Disk × FixCounts) := do
  let source ← readSource disk path
  let (repaired, invalid) := (repair source diagnostics).getD (⟨source, 0, 0⟩, 0)
  let counts : FixCounts := ⟨repaired.applied, repaired.skipped + invalid,
    diagnostics.countP (·.suggestion.isNone)⟩
  if repaired.applied = 0 then pure (disk, counts)
  else
    match disk.overwrite? path repaired.text with
    | some written => pure (written, counts)
    | none => throw (.fileUnwritable path)

end CourseLint
