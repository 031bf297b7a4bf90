/-!
# Glob patterns

A pattern is a list of pieces: plain characters, single wildcards, sets of characters and runs.  A
double star stands for any number of whole directories, so it must fill a path component.
-/

namespace PhpOutline.Glob

/-- An inclusive range of characters; a single character is a range of one. -/
structure CharRange where
  first : Char
  last : Char
deriving DecidableEq, Inhabited

/-- The character lies in the range. -/
def CharRange.contains (r : CharRange) (c : Char) : Bool := r.first ≤ c && c ≤ r.last

/-- A piece of a pattern. -/
inductive Piece
  /-- This character. -/
  | char (c : Char)
  /-- Any one character. -/
  | anyChar
  /-- Any run of characters. -/
  | anyRun
  /-- Any run of whole directories. -/
  | anyDirectories
  /-- One character of a set. -/
  | oneOf (set : List CharRange)
  /-- One character outside a set. -/
  | noneOf (set : List CharRange)
deriving DecidableEq, Inhabited

/-- What can be wrong with a pattern. -/
inductive Fault
  | tooManyStars
  | partialComponent
  | badSet
deriving DecidableEq, Inhabited

/-- The wording of a fault. -/
def Fault.message : Fault → String
  | tooManyStars => "wildcards are either regular `*` or recursive `**`"
  | partialComponent => "recursive wildcards must form a single path component"
  | badSet => "invalid range pattern"

/-- A fault and its place, counted in characters. -/
structure PatternError where
  position : Nat
  fault : Fault
deriving DecidableEq, Inhabited

/-- The wording of the error. -/
def PatternError.message (e : PatternError) : String :=
  s!"Pattern syntax error near position {e.position}: {e.fault.message}"

/-! ### Reading -/

/-- The ranges of a set: two characters around a hyphen, or single ones. -/
def ranges : List Char → List CharRange
  | a :: '-' :: b :: cs => ⟨a, b⟩ :: ranges cs
  | a :: cs => ⟨a, a⟩ :: ranges cs
  | [] => []

/-- The members of a set up to its closing bracket.  The first member may be that bracket. -/
def members? : List Char → Option (List Char)
  | [] => none
  | c :: cs => if ']' ∈ cs then some (c :: cs.takeWhile (· != ']')) else none

/-- The set that starts behind an opening bracket, and the number of characters in it, the closing
bracket included. -/
def set? : List Char → Option (Piece × Nat)
  | '!' :: cs => (members? cs).map fun ms => (.noneOf (ranges ms), ms.length + 2)
  | cs => (members? cs).map fun ms => (.oneOf (ranges ms), ms.length + 1)

/-- The run of stars that starts at `position` with one star, and the number of characters in it
behind that star. -/
def stars (position : Nat) (previous : Option Char) (cs : List Char) :
    Except PatternError (Piece × Nat) :=
  match cs with
  | '*' :: '*' :: _ => .error ⟨position + 2, .tooManyStars⟩
  | '*' :: rest =>
    if previous.all (· == '/') then
      match rest with
      | [] => .ok (.anyDirectories, 1)
      | '/' :: _ => .ok (.anyDirectories, 2)
      | _ :: _ => .error ⟨position + 2, .partialComponent⟩
    else .error ⟨position - 1, .partialComponent⟩
  | _ => .ok (.anyRun, 0)

/-- The piece that starts at `position` with the character `c`, and the number of characters in
it behind that one. -/
def piece (position : Nat) (previous : Option Char) (c : Char) (cs : List Char) :
    Except PatternError (Piece × Nat) :=
  if c = '?' then .ok (.anyChar, 0)
  else if c = '*' then stars position previous cs
  else if c = '[' then
    match set? cs with
    | some read => .ok read
    | none => .error ⟨position, .badSet⟩
  else .ok (.char c, 0)

/-- Reads the pieces from `position` on. -/
def piecesFrom (position : Nat) (previous : Option Char) :
    List Char → Except PatternError (List Piece)
  | [] => .ok []
  | c :: cs => do
    let (first, more) ← piece position previous c cs
    let last := ((c :: cs).take (more + 1)).getLast?
    let rest ← piecesFrom (position + more + 1) last (cs.drop more)
    return first :: rest
termination_by cs => cs.length

end PhpOutline.Glob

namespace PhpOutline

/-- A glob pattern. -/
structure Glob where
  pieces : List Glob.Piece
deriving DecidableEq, Inhabited

/-- Reads a pattern. -/
def Glob.parse (pattern : String) : Except Glob.PatternError Glob :=
  (Glob.piecesFrom 0 none pattern.toList).map Glob.mk

end PhpOutline
