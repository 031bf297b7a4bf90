import PhpOutline.Glob.Pattern

/-!
# Matching a glob pattern

A pattern matches a whole text.  Runs and single wildcards cross the separators of a path.
-/

namespace PhpOutline.Glob

/-- What is left of a text behind each of its front parts. -/
def suffixes : List Char → List (List Char)
  | [] => [[]]
  | c :: cs => (c :: cs) :: suffixes cs

/-- What is left of a text behind each separator, and at its end. -/
def behindSeparators : List Char → List (List Char)
  | [] => [[]]
  | c :: cs => if c = '/' then cs :: behindSeparators cs else behindSeparators cs

/-- What is left of a text behind any number of whole directories. -/
def behindDirectories (cs : List Char) : List (List Char) := cs :: behindSeparators cs

/-- A piece that stands for one character accepts it. -/
def Piece.accepts (p : Piece) (c : Char) : Bool :=
  match p with
  | .char d => c == d
  | .anyChar => true
  | .oneOf set => set.any (·.contains c)
  | .noneOf set => !set.any (·.contains c)
  | .anyRun | .anyDirectories => false

/-- The pieces match the whole text. -/
def matchPieces : List Piece → List Char → Bool
  | [], cs => cs.isEmpty
  | .anyRun :: ps, cs => (suffixes cs).any (matchPieces ps)
  | .anyDirectories :: ps, cs => (behindDirectories cs).any (matchPieces ps)
  | _ :: _, [] => false
  | p :: ps, c :: cs => p.accepts c && matchPieces ps cs

end PhpOutline.Glob

namespace PhpOutline

/-- The pattern matches the text. -/
def Glob.matchesText (g : Glob) (text : String) : Bool := Glob.matchPieces g.pieces text.toList

end PhpOutline
