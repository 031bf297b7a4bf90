import PhpOutline.Symbol.Attribute

/-!
# Open scopes

While the tokens are passed one by one, at most one container and one function are open: the
outermost ones.  Anonymous containers and enumerations are not opened; they only mask the
functions declared inside them.
-/

namespace PhpOutline

/-- An open scope: its name, its lines and the index of the token that closes it.  An anonymous
function has the empty name. -/
structure Frame where
  name : String
  startLine : Nat
  endLine : Nat
  endIndex : Nat
deriving DecidableEq, Inhabited

/-- The open container with its kind, the open function, and the end of the outermost mask. -/
structure Tracker where
  container : Option (ContainerKind × Frame) := none
  function : Option Frame := none
  maskedUntil : Option Nat := none
deriving DecidableEq, Inhabited

namespace Tracker

/-- Opens a container unless one is open, and says whether it did. -/
def openContainer (s : Tracker) (kind : ContainerKind) (frame : Frame) : Bool × Tracker :=
  if s.container.isSome then (false, s) else (true, { s with container := some (kind, frame) })

/-- Opens a function unless one is open, and says whether it did. -/
def openFunction (s : Tracker) (frame : Frame) : Bool × Tracker :=
  if s.function.isSome then (false, s) else (true, { s with function := some frame })

/-- Masks the tokens up to the given index. -/
def maskUntil (s : Tracker) (index : Nat) : Tracker :=
  { s with maskedUntil := some (s.maskedUntil.elim index (max index)) }

/-- The token with the given index is masked. -/
def isMasked (s : Tracker) (index : Nat) : Bool :=
  s.maskedUntil.any fun last => decide (index ≤ last)

/-- The function that ends at the given index. -/
def functionEndingAt? (s : Tracker) (index : Nat) : Option Frame :=
  s.function.filter (·.endIndex == index)

/-- The container that ends at the given index. -/
def containerEndingAt? (s : Tracker) (index : Nat) : Option (ContainerKind × Frame) :=
  s.container.filter (·.2.endIndex == index)

/-- Closes what ends at the given index, and the mask if it ends there. -/
def closeAt (s : Tracker) (index : Nat) : Tracker where
  container := s.container.filter (·.2.endIndex != index)
  function := s.function.filter (·.endIndex != index)
  maskedUntil := s.maskedUntil.filter (· != index)

end Tracker

end PhpOutline
