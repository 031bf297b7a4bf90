import PhpOutline.Token.Kind

/-!
# Attributes of symbols

The kinds of container, the visibility of members and the modifiers of a declaration, each read
off the words that stand for them.
-/

namespace PhpOutline

/-- What a container is declared as. -/
inductive ContainerKind
  | classDecl | traitDecl | interfaceDecl
deriving DecidableEq, Inhabited

namespace ContainerKind

/-- The kind that a word declares. -/
def ofKind? : Kind → Option ContainerKind
  | .kwClass => some classDecl
  | .kwTrait => some traitDecl
  | .kwInterface => some interfaceDecl
  | _ => none

/-- The word that declares a container of this kind. -/
def name : ContainerKind → String
  | classDecl => "class"
  | traitDecl => "trait"
  | interfaceDecl => "interface"

end ContainerKind

/-- From where a member can be used. -/
inductive Visibility
  | publicAccess | protectedAccess | privateAccess
deriving DecidableEq, Inhabited

namespace Visibility

/-- The visibility that a word gives. -/
def ofKind? : Kind → Option Visibility
  | .kwPublic => some publicAccess
  | .kwProtected => some protectedAccess
  | .kwPrivate => some privateAccess
  | _ => none

/-- The word for the visibility. -/
def name : Visibility → String
  | publicAccess => "public"
  | protectedAccess => "protected"
  | privateAccess => "private"

end Visibility

/-- A word that modifies a declaration. -/
inductive Modifier
  | abstract | final | static
deriving DecidableEq, Inhabited

namespace Modifier

/-- The modifier that a word stands for. -/
def ofKind? : Kind → Option Modifier
  | .kwAbstract => some abstract
  | .kwFinal => some final
  | .kwStatic => some static
  | _ => none

/-- The word for the modifier. -/
def name : Modifier → String
  | abstract => "abstract"
  | final => "final"
  | static => "static"

/-- All modifiers in the order in which they are listed. -/
def all : List Modifier := [abstract, final, static]

end Modifier

/-- A set of modifiers. -/
structure Modifiers where
  isAbstract : Bool := false
  isFinal : Bool := false
  isStatic : Bool := false
deriving DecidableEq, Inhabited

namespace Modifiers

/-- The modifier is in the set. -/
def contains (m : Modifiers) : Modifier → Bool
  | .abstract => m.isAbstract
  | .final => m.isFinal
  | .static => m.isStatic

/-- The members of the set in order. -/
def toList (m : Modifiers) : List Modifier := Modifier.all.filter m.contains

/-- The set of the modifiers in a list. -/
def ofList (l : List Modifier) : Modifiers :=
  ⟨.abstract ∈ l, .final ∈ l, .static ∈ l⟩

end Modifiers

end PhpOutline
