import CourseLint.CommandLine.RulesCommand
import CourseLint.Project

set_option autoImplicit false

namespace CourseLint.CommandLine

variable [Bibliography.Reader] [Pattern.Engine] [Report.Writer]

def carryOut (disk : Disk) (root : Path) (config : Config) (color : Bool) : Command → Outcome
  | .lint arguments => runLint disk root config color arguments
  | .rules long => runRules disk config long

inductive Conclusion where
  | refused (error : UsageError)
  | stopped (error : Error)
  | finished (outcome : Outcome)

def projectRoot (disk : Disk) (invocation : Invocation) : Path :=
  invocation.project.getD ((Project.findRoot? disk disk.currentPath).getD disk.currentPath)

def run (disk : Disk) (environment : Environment) (arguments : List Text) : Conclusion :=
  match parse environment arguments with
  | .error error => .refused error
  | .ok invocation =>
    let root := projectRoot disk invocation
    match Project.loadConfig disk root invocation.config with
    | .error error => .stopped error
    | .ok config =>
      let color := !invocation.noColor && environment.allowsColor
      .finished (carryOut disk root config color invocation.command)

def usage : Text :=
  "Usage: gtnlint [FLAGS] lint [FLAGS] <PATH>...\n" ++
  "       gtnlint [FLAGS] rules [FLAGS]\n" ++
  "\n" ++
  "Everywhere:\n" ++
  "  -c, --config <FILE>      read this configuration instead of the project's\n" ++
  "  -p, --project <DIR>      take this directory for the root of the project\n" ++
  "      --no-color           write no colours\n" ++
  "      --debug              accepted, and without effect\n" ++
  "  -h, --help               show this text\n" ++
  "  -V, --version            show the version\n" ++
  "lint:\n" ++
  "      --format <FORMAT>    rdjsonl or human\n" ++
  "      --fix                apply the suggestions to the files\n" ++
  "      --strict             fail on warnings too\n" ++
  "      --disable <RULES>    turn rules off, by id or code, with commas between them\n" ++
  "rules:\n" ++
  "  -l, --long               describe each rule\n"

namespace UsageError

def message : UsageError → Text
  | .help | .version _ => []
  | .nothingGiven | .missingCommand => "error: a command is needed\n"
  | .missingPaths => "error: lint needs a path at least\n"
  | .unknownCommand => "error: there is no such command\n"
  | .unknownArgument => "error: an argument has no meaning here\n"
  | .invalidValue => "error: a value is missing or not valid\n"
  | .unexpectedValue => "error: a flag was given a value but takes none\n"
  | .repeatedFlag => "error: a flag was given twice\n"

def exitCode : UsageError → Nat
  | .help | .version _ => 0
  | _ => 2

def out : UsageError → Text
  | .help => usage
  | .version program => program ++ " 0.1.0\n"
  | _ => []

def err (error : UsageError) : Text :=
  if error.exitCode = 0 then [] else error.message ++ "\n" ++ usage

end UsageError

namespace Conclusion

def exitCode : Conclusion → Nat
  | .refused error => error.exitCode
  | .stopped _ => 2
  | .finished outcome => outcome.exitCode

def out : Conclusion → Text
  | .refused error => error.out
  | .stopped _ => []
  | .finished outcome => outcome.out

def err : Conclusion → Text
  | .refused error => error.err
  | .stopped error => "Error: " ++ error.message ++ "\n"
  | .finished outcome => outcome.err

end Conclusion

end CourseLint.CommandLine
