import CourseLint.Config
import CourseLint.Files.Disk

set_option autoImplicit false

namespace CourseLint.Project

def configName : Path := ".gtnlint.yml"

def isRoot (disk : Disk) (path : Path) : Bool :=
  disk.isFile (Path.join path configName) || disk.fileExists (Path.join path ".git")

def ancestors : Nat → Path → List Path
  | 0, path => [path]
  | count + 1, path =>
    match Path.parent? path with
    | none => [path]
    | some parent => path :: ancestors count parent

def findRoot? (disk : Disk) (start : Path) : Option Path :=
  (ancestors start.length start).find? (isRoot disk)

def loadConfigFile (disk : Disk) (path : Path) : Except Error Config :=
  match disk.readText path with
  | .ok source => Config.parse path source
  | .error .notFound => .error (.configNotFound path)
  | .error cause => .error (.io cause)

def loadConfig (disk : Disk) (root : Path) (asked : Option Path) : Except Error Config :=
  match asked with
  | some path => loadConfigFile disk path
  | none =>
    let path := Path.join root configName
    if disk.isFile path then loadConfigFile disk path else .ok Config.default

end CourseLint.Project
