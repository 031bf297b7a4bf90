import PhpOutline.Package.Basic
import PhpOutline.Symbol.Attribute
import PhpOutline.Text.Ascii
import Std.Data.TreeMap

/-!
# Symbols

Functions, and the containers that hold them as methods.  Methods are kept by name, in the order
of their names; names compare by their characters.
-/

namespace PhpOutline

/-- A function or method.  An anonymous function has no name. -/
structure FunctionSymbol where
  name : Option String
  docblock : Option String := none
  modifiers : Modifiers := {}
  visibility : Option Visibility := none
  /-- The text between the name and the body. -/
  signature : String := ""
  startLine : Nat := 0
  endLine : Nat := 0
  complexity : Nat := 1
deriving DecidableEq, Inhabited

/-- The name of a function in reports. -/
def FunctionSymbol.label (f : FunctionSymbol) : String := f.name.getD "anonymous function"

/-- A class, trait or interface. -/
structure Container where
  name : String
  kind : ContainerKind
  parent : Option String := none
  /-- The names behind `implements`, if that word is there. -/
  interfaces : Option (List String) := none
  modifiers : Modifiers := {}
  docblock : Option String := none
  startLine : Nat := 0
  endLine : Nat := 0
  package : Package := {}
  methods : Std.TreeMap String FunctionSymbol := {}
deriving Inhabited

namespace Container

/-- The name of a container with its namespace. -/
def qualifiedName (c : Container) : String := qualify c.package.namespaceName c.name

/-- Adds a method; it takes the place of an earlier one with the same name.  An anonymous function
is not kept. -/
def addMethod (c : Container) (method : FunctionSymbol) : Container :=
  match method.name with
  | some name => { c with methods := c.methods.insert name method }
  | none => c

/-- The method with the given name or, if there is none, the first one whose name differs only in
letter case. -/
def method? (c : Container) (name : String) : Option FunctionSymbol :=
  match c.methods[name]? with
  | some method => some method
  | none => (c.methods.toList.find? fun entry => Text.eqIgnoringCase entry.1 name).map (·.2)

end Container

end PhpOutline
