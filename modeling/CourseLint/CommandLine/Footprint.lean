import CourseLint.CommandLine.Run

set_option autoImplicit false

namespace CourseLint.CommandLine

def Command.collectedFrom : Command → List Path
  | .lint arguments => arguments.paths
  | .rules _ => []

def rootMarks (disk : Disk) : List Path :=
  (Project.ancestors disk.currentPath.length disk.currentPath).flatMap fun directory =>
    [Path.join directory Project.configName, Path.join directory ".git"]

def configPath (disk : Disk) (invocation : Invocation) : Path :=
  invocation.config.getD (Path.join (projectRoot disk invocation) Project.configName)

def snippetNames (disk : Disk) (path : Path) : List Text :=
  match disk.readText path with
  | .ok source =>
    (Pattern.snippet.firstOccurrences (Text.splitLines source)).map fun occurrence =>
      occurrence.group 1
  | .error _ => []

def snippetPaths (disk : Disk) (invocation : Invocation) : List Path :=
  let root := projectRoot disk invocation
  match Project.loadConfig disk root invocation.config with
  | .ok config =>
    let names := (invocation.command.collectedFrom.flatMap disk.filesAt).flatMap fun path =>
      if FileKind.ofPath path = .markup then snippetNames disk path else []
    names.map (Path.join (snippetDirectory root config))
  | .error _ => []

end CourseLint.CommandLine
