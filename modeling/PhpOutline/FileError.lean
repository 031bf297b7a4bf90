import PhpOutline.Token.Basic

/-!
# Files that cannot be analyzed

A file cannot be read, or its source has a character that the grammar does not know.
-/

namespace PhpOutline

/-- Why a file cannot be read. -/
inductive ReadError
  | notFound
  | notADirectory
  | isADirectory
  | invalidText
deriving DecidableEq, Inhabited

/-- The wording of the error. -/
def ReadError.message : ReadError → String
  | notFound => "No such file or directory (os error 2)"
  | notADirectory => "Not a directory (os error 20)"
  | isADirectory => "Is a directory (os error 21)"
  | invalidText => "stream did not contain valid UTF-8"

/-- Why the file with the given path cannot be analyzed. -/
inductive FileError
  | unreadable (path : String) (cause : ReadError)
  | token (path : String) (cause : UnknownPunctuation)
deriving DecidableEq

namespace FileError

/-- The path of the file. -/
def path : FileError → String
  | unreadable path _ | token path _ => path

/-- The wording of the cause alone. -/
def reason : FileError → String
  | unreadable _ cause => cause.message
  | token _ cause => cause.message

/-- The wording of the error. -/
def message : FileError → String
  | unreadable path cause => s!"Failed to read {path}: {cause.message}"
  | token path cause => s!"{path}: {cause.message}"

end FileError

end PhpOutline
