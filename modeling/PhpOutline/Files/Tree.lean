import PhpOutline.FileError
import PhpOutline.Files.Path

/-!
# File trees

The files that a run can see: a tree of directories and files, and the directory that relative
paths start from.  A location in the tree is the list of names that leads to it from the root;
there are no links, so the way to a place is its only name.
-/

namespace PhpOutline

/-- A file with its bytes, or a directory with its entries. -/
inductive Node
  | file (content : ByteArray)
  | directory (entries : List (String × Node))
deriving Inhabited

namespace Node

/-- The node at a location below this one. -/
def get? : Node → List String → Option Node
  | n, [] => some n
  | file _, _ :: _ => none
  | directory entries, name :: names =>
    match entries.lookup name with
    | some n => n.get? names
    | none => none

/-- The entries with the entry of the given name replaced or added. -/
def setEntry (name : String) (n : Node) : List (String × Node) → List (String × Node)
  | [] => [(name, n)]
  | entry :: entries =>
    if entry.1 = name then (name, n) :: entries else entry :: setEntry name n entries

/-- The tree with the node at a location replaced or added, and the directories on the way to it
added where they are missing. -/
def set (n : Node) (location : List String) (new : Node) : Node :=
  match location with
  | [] => new
  | name :: names =>
    let entries := match n with
      | file _ => []
      | directory entries => entries
    let child := (entries.lookup name).getD (directory [])
    directory (setEntry name (child.set names new) entries)

mutual

/-- The paths of the files at or below a node that has the given path. -/
def filesBelow (path : String) : Node → List String
  | file _ => [path]
  | directory entries => filesIn path entries

/-- The paths of the files at or below the entries of the directory with the given path. -/
def filesIn (path : String) : List (String × Node) → List String
  | [] => []
  | (name, n) :: entries => filesBelow (Path.join path name) n ++ filesIn path entries

end

end Node

/-- A tree of files and the location of the working directory. -/
structure FileTree where
  root : Node
  workingDirectory : List String
deriving Inhabited

namespace FileTree

/-- The location that a segment of a path leads to from a location.  Every segment, even an empty
one, must start from a directory. -/
def follow (t : FileTree) (location : List String) (segment : String) :
    Except ReadError (List String) :=
  match t.root.get? location with
  | none => .error .notFound
  | some (.file _) => .error .notADirectory
  | some (.directory entries) =>
    match Component.ofSegment? segment with
    | some .parent => .ok location.dropLast
    | some (.normal name) =>
      if (entries.lookup name).isSome then .ok (location ++ [name]) else .error .notFound
    | _ => .ok location

/-- Where a path starts: at the root if a separator stands in front. -/
def origin (t : FileTree) (path : String) : List String :=
  if path.toList.head? = some '/' then [] else t.workingDirectory

/-- The location that segments lead to from where a path starts. -/
def locate (t : FileTree) (path : String) (segments : List String) :
    Except ReadError (List String) :=
  segments.foldlM t.follow (t.origin path)

/-- The node that a path leads to.  The empty path leads nowhere. -/
def resolve (t : FileTree) (path : String) : Except ReadError Node :=
  if path.isEmpty then .error .notFound
  else
    match t.locate path (Path.segments path) with
    | .error e => .error e
    | .ok location =>
      match t.root.get? location with
      | some n => .ok n
      | none => .error .notFound

/-- The path leads somewhere. -/
def pathExists (t : FileTree) (path : String) : Bool := (t.resolve path).toBool

/-- The text of the file that a path leads to. -/
def read (t : FileTree) (path : String) : Except ReadError String :=
  match t.resolve path with
  | .error e => .error e
  | .ok (.directory _) => .error .isADirectory
  | .ok (.file content) =>
    match String.fromUTF8? content with
    | some text => .ok text
    | none => .error .invalidText

/-- The location of a file that can be written under a path: one that exists, or a new entry of a
directory that exists.  A separator at the end asks for a directory. -/
def writable (t : FileTree) (path : String) : Except ReadError (List String) :=
  let segments := Path.segments path
  let named := (segments.reverse.dropWhile (·.isEmpty)).reverse
  match t.resolve path, named.getLast?.bind Component.ofSegment? with
  | .ok (.file _), _ => t.locate path segments
  | .ok (.directory _), _ => .error .isADirectory
  | .error .notFound, some (.normal name) =>
    match t.locate path named.dropLast with
    | .error e => .error e
    | .ok location =>
      match t.root.get? location with
      | none => .error .notFound
      | some (.file _) => .error .notADirectory
      | some (.directory _) =>
        if named.length < segments.length then .error .isADirectory
        else .ok (location ++ [name])
  | .error e, _ => .error e

/-- The tree with a text written at a location. -/
def write (t : FileTree) (location : List String) (text : String) : FileTree :=
  { t with root := t.root.set location (.file text.toUTF8) }

/-- The path of the directory at a location. -/
def absolutePath (location : List String) : String := "/" ++ "/".intercalate location

end FileTree

end PhpOutline
