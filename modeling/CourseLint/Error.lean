import CourseLint.Bibliography.Reader
import CourseLint.Files.Path

set_option autoImplicit false

namespace CourseLint

inductive ReadFailure where
  | notFound
  | notDirectory
  | isDirectory
  | nameTooLong
  | nulInName
  | notText
deriving DecidableEq, Repr

def ReadFailure.message : ReadFailure → Text
  | .notFound => "No such file or directory (os error 2)"
  | .notDirectory => "Not a directory (os error 20)"
  | .isDirectory => "Is a directory (os error 21)"
  | .nameTooLong => "File name too long (os error 36)"
  | .nulInName => "file name contained an unexpected NUL byte"
  | .notText => "stream did not contain valid UTF-8"

inductive Error where
  | fileUnreadable (path : Path) (cause : ReadFailure)
  | bibliographyParse (path : Path) (cause : Bibliography.SourceError)
  | configNotFound (path : Path)
  | configParse (path : Path) (detail : Text)
  | io (cause : ReadFailure)
  | fileUnwritable (path : Path)
deriving DecidableEq, Repr

def Error.message : Error → Text
  | .fileUnreadable path cause => "Failed to read " ++ path ++ ": " ++ cause.message
  | .bibliographyParse path cause =>
    "Failed to parse bibliography " ++ path ++ ": " ++ cause.message
  | .configNotFound path => "Configuration not found: " ++ path
  | .configParse path detail => "Failed to parse config at " ++ path ++ ": " ++ detail
  | .io cause => "IO error: " ++ cause.message
  | .fileUnwritable path => "Failed to write fixes to " ++ path

end CourseLint
