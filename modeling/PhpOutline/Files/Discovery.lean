import PhpOutline.Files.Exclusion
import PhpOutline.Files.Tree

/-!
# Finding the files to analyze

A path that leads to a file is taken as it is.  A directory stands for the PHP files below it that
no pattern leaves out.  The files are put in order, and equal paths count once.
-/

namespace PhpOutline

/-- A file found in a directory is analyzed. -/
def isSourceFile (exclusions : List Exclusion) (path : String) : Bool :=
  Path.extension? path == some "php" && !isExcluded exclusions path

namespace FileTree

/-- The files that a path stands for. -/
def filesAt (t : FileTree) (exclusions : List Exclusion) (path : String) : List String :=
  match t.resolve path with
  | .error _ => []
  | .ok (.file _) => [path]
  | .ok (.directory entries) =>
    (Node.filesIn path entries).filter (isSourceFile exclusions)

/-- The files that the paths stand for, in order. -/
def collect (t : FileTree) (exclusions : List Exclusion) (paths : List String) : List String :=
  Path.sorted (paths.flatMap (t.filesAt exclusions))

end FileTree

end PhpOutline
