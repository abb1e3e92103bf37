import CourseLint.CommandLine.LintCommand

set_option autoImplicit false

namespace CourseLint.CommandLine

def isDisabled (config : Config) (rule : Rule) : Bool := config.disable.any rule.answersTo

def kindLabel : FileKind → Text
  | .markup => "md"
  | .bibliography => "bib"
  | .unsupported => "-"

def ruleMarks (config : Config) (rule : Rule) : List Text :=
  (if rule.fixable then ["fix".toList] else []) ++
    if isDisabled config rule then ["disabled".toList] else []

def ruleLine (config : Config) (rule : Rule) : Text :=
  Text.padRight rule.id 24 ++ " " ++ Text.padRight rule.code.value 8 ++ " " ++
    Text.padRight rule.severity.name 8 ++ " " ++ Text.padRight (kindLabel rule.kind) 4 ++ " " ++
    Text.joinWith "," (ruleMarks config rule) ++ "\n"

def ruleDetails (rule : Rule) : Text :=
  "    " ++ rule.name ++ ": " ++ rule.description ++ "\n    " ++ rule.code.url ++ "\n"

variable [Pattern.Engine]

def rulesListing (config : Config) (long : Bool) : Text :=
  Registry.builtins.rules.flatMap fun rule =>
    ruleLine config rule ++ if long then ruleDetails rule else []

def runRules (disk : Disk) (config : Config) (long : Bool) : Outcome where
  exitCode := 0
  out := rulesListing config long
  err := []
  disk := disk

end CourseLint.CommandLine
