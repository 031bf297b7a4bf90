import PhpOutline.Files.Path
import PhpOutline.Glob.Match

/-!
# Excluded paths

A run can leave out files by patterns.  A pattern that ends in a slash names directories; every
other one is a glob that is tried on the whole path and on the name of the file.
-/

namespace PhpOutline

/-- A pattern that cannot be read. -/
structure InvalidPattern where
  pattern : String
  cause : Glob.PatternError
deriving DecidableEq

/-- The wording of the error. -/
def InvalidPattern.message (e : InvalidPattern) : String :=
  s!"Invalid exclude pattern '{e.pattern}': {e.cause.message}"

/-- A readable pattern. -/
inductive Exclusion
  /-- Leaves out everything below directories of this name. -/
  | directory (name : String)
  /-- Leaves out what the glob matches. -/
  | glob (pattern : Glob)
deriving DecidableEq

namespace Exclusion

/-- Reads a pattern. -/
def parse (pattern : String) : Except InvalidPattern Exclusion :=
  let cs := pattern.toList
  if cs.getLast? = some '/' then .ok (.directory (String.ofList cs.dropLast))
  else
    match Glob.parse pattern with
    | .ok g => .ok (.glob g)
    | .error e => .error ⟨pattern, e⟩

/-- Reads patterns; the first one that cannot be read is reported. -/
def parseAll (patterns : List String) : Except InvalidPattern (List Exclusion) :=
  patterns.mapM parse

/-- The pattern leaves out the path. -/
def excludes (e : Exclusion) (path : String) : Bool :=
  match e with
  | directory name =>
    let inside := name.toList ++ ['/']
    inside.isPrefixOf path.toList || (Text.splitOnce? ('/' :: inside) path.toList).isSome
  | glob g => g.matchesText path || (Path.fileName? path).any g.matchesText

end Exclusion

/-- One of the patterns leaves out the path. -/
def isExcluded (exclusions : List Exclusion) (path : String) : Bool :=
  exclusions.any (·.excludes path)

end PhpOutline
