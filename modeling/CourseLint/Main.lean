import CourseLint.Bibliography.Resolved
import CourseLint.CommandLine.Footprint

set_option autoImplicit false

namespace CourseLint.Program

def nativePath (names : List Text) : String := String.ofList ('/' :: Text.joinWith ['/'] names)

def copyNode (disk : Disk) (names : List Text) : IO (Disk × Bool) := do
  let path := (← IO.currentDir) / nativePath names
  if ← path.isDir then
    let disk :=
      if (disk.root.at? names).isSome then disk
      else { disk with root := FileTree.put .empty names disk.root }
    return (disk, true)
  else
    match ← (IO.FS.readBinFile path).toBaseIO with
    | .ok bytes =>
      let file := FileTree.file (Content.ofBytes bytes.toList)
      return ({ disk with root := FileTree.put file names disk.root }, false)
    | .error _ => return (disk, false)

partial def copyBelow (disk : Disk) (names : List Text) : IO Disk := do
  let path := (← IO.currentDir) / nativePath names
  match ← path.readDir.toBaseIO with
  | .error _ => return disk
  | .ok entries =>
    let mut disk := disk
    for entry in entries do
      let name := entry.fileName.toList
      unless NameTree.isPassedOver name do
        let (copied, isDirectory) ← copyNode disk (names ++ [name])
        disk := copied
        if isDirectory then
          disk ← copyBelow disk (names ++ [name])
    return disk

def copyPath (deep : Bool) (disk : Disk) (path : Path) : IO Disk := do
  let mut disk := disk
  let mut names := if Path.isAbsolute path then [] else disk.current
  let mut isDirectory := true
  for part in Text.splitOn '/' path do
    if part = ['.', '.'] then
      names := names.dropLast
    else if part ≠ [] ∧ part ≠ ['.'] ∧ isDirectory then
      names := names ++ [part]
      (disk, isDirectory) ← copyNode disk names
  if deep ∧ isDirectory then copyBelow disk names else return disk

def currentDisk : IO Disk := do
  let path := (← IO.currentDir).toString.toList
  let names := (Text.splitOn '/' path).filter (· ≠ [])
  return ⟨FileTree.put .empty names .empty, names⟩

def copyFor (environment : CommandLine.Environment) (arguments : List Text)
    (invocation : CommandLine.Invocation) : IO Disk := do
  let mut disk ← currentDisk
  for path in invocation.command.collectedFrom do
    disk ← copyPath true disk path
  for path in CommandLine.rootMarks disk do
    disk ← copyPath false disk path
  disk ← copyPath false disk (CommandLine.configPath disk invocation)
  for path in CommandLine.snippetPaths disk invocation do
    disk ← copyPath false disk path
  if let .finished outcome := CommandLine.run disk environment arguments then
    for path in CommandLine.snippetPaths outcome.disk invocation do
      disk ← copyPath false disk path
  return disk

def isWrittenBack (before after : Disk) (path : Path) : IO Bool := do
  match before.readText path, after.readText path with
  | .ok old, .ok new =>
    if old = new then return true
    let result ← (IO.FS.writeFile (String.ofList path) (String.ofList new)).toBaseIO
    return result.toBool
  | _, _ => return true

def withReadOnly (disk : Disk) (path : Path) : Disk :=
  match disk.locate path, disk.readText path with
  | .ok names, .ok source =>
    { disk with root := FileTree.put (.file (.readOnly source)) names disk.root }
  | _, _ => disk

-- A file that turns out not to be writable changes what the run has to say of it.
partial def carriedOut (environment : CommandLine.Environment) (arguments : List Text)
    (paths : List Path) (disk : Disk) : IO CommandLine.Conclusion := do
  let conclusion := CommandLine.run disk environment arguments
  if let .finished outcome := conclusion then
    for path in paths do
      unless ← isWrittenBack disk outcome.disk path do
        return ← carriedOut environment arguments paths (withReadOnly disk path)
  return conclusion

def environmentNow : IO CommandLine.Environment := do
  let mut values := []
  for name in ["GTNLINT_CONFIG", "NO_COLOR", "CLICOLOR", "CLICOLOR_FORCE"] do
    if let some value ← IO.getEnv name then
      values := (name.toList, value.toList) :: values
  let terminal := (← IO.getEnv "TERM").getD "dumb"
  let isTerminal ← (← IO.getStdout).isTty
  return ⟨values, isTerminal && terminal != "dumb" && (← IO.getEnv "NO_COLOR").isNone⟩

end CourseLint.Program

open CourseLint CourseLint.Program in
def main (arguments : List String) : IO UInt32 := do
  let arguments := arguments.map String.toList
  let environment ← environmentNow
  let conclusion ← match CommandLine.parse environment arguments with
    | .ok invocation => do
      let disk ← copyFor environment arguments invocation
      carriedOut environment arguments (invocation.command.collectedFrom.flatMap disk.filesAt) disk
    | .error error => pure (.refused error)
  (← IO.getStdout).putStr (String.ofList conclusion.out)
  (← IO.getStderr).putStr (String.ofList conclusion.err)
  return conclusion.exitCode.toUInt32
