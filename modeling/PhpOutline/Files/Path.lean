import PhpOutline.Text.Split

/-!
# Paths

A path is a text; its components give it its meaning and its place in the order of paths.
Repeated separators and dots between components do not count, but a dot in front is a component of
its own.
-/

namespace PhpOutline

/-- A component of a path. -/
inductive Component
  | root
  | current
  | parent
  | normal (name : String)
deriving DecidableEq, Inhabited

namespace Component

/-- The kinds of components in order. -/
def rank : Component → Nat
  | root => 0
  | current => 1
  | parent => 2
  | normal _ => 3

/-- The name of a component that names an entry. -/
def name? : Component → Option String
  | normal name => some name
  | _ => none

/-- Components compare by kind, and names by their characters. -/
def compare (a b : Component) : Ordering :=
  (Ord.compare a.rank b.rank).then (Ord.compare (a.name?.getD "") (b.name?.getD ""))

/-- The component that a segment between separators stands for, dots and empty segments apart. -/
def ofSegment? (segment : String) : Option Component :=
  if segment = "" ∨ segment = "." then none
  else if segment = ".." then some parent
  else some (normal segment)

end Component

namespace Path

/-- The segments of a path between its separators. -/
def segments (path : String) : List String :=
  (Text.splitWhere (· == '/') path.toList).map String.ofList

/-- What the first segment of a path adds to its components: an empty one in front of a separator
is the root, and a dot stands for itself. -/
def front (path : String) : List Component :=
  match segments path with
  | "" :: _ :: _ => [.root]
  | "." :: _ => [.current]
  | _ => []

/-- The components of a path. -/
def components (path : String) : List Component :=
  front path ++ (segments path).filterMap Component.ofSegment?

/-- The order of lists of components, the first difference deciding. -/
def compareComponents : List Component → List Component → Ordering
  | [], [] => .eq
  | [], _ :: _ => .lt
  | _ :: _, [] => .gt
  | a :: as, b :: bs => (a.compare b).then (compareComponents as bs)

/-- The order of paths. -/
def compare (p q : String) : Ordering := compareComponents (components p) (components q)

/-- The name of the entry that a path leads to.  A path that ends in a dot in front, a parent or
the root has none. -/
def fileName? (path : String) : Option String := (components path).getLast?.bind Component.name?

/-- The text behind the last dot of a file name, unless nothing stands before that dot. -/
def extensionOf? (name : String) : Option String :=
  match (Text.splitWhere (· == '.') name.toList).reverse with
  | [] | [_] | [_, []] => none
  | last :: _ => some (String.ofList last)

/-- The extension of the entry that a path leads to. -/
def extension? (path : String) : Option String := (fileName? path).bind extensionOf?

/-- The path of an entry of a directory. -/
def join (directory name : String) : String :=
  if directory.isEmpty || directory.toList.getLast? == some '/' then directory ++ name
  else directory ++ "/" ++ name

/-- The paths in order, and of equal ones only the first. -/
def sorted (paths : List String) : List String :=
  let ordered := paths.mergeSort fun p q => (compare p q).isLE
  ordered.foldr (fun p rest =>
    match rest with
    | [] => [p]
    | q :: qs => if compare p q = .eq then p :: qs else p :: q :: qs) []

end Path

end PhpOutline
