import PhpOutline.LineCount
import PhpOutline.Symbol.Basic
import PhpOutline.Text.Split

/-!
# The outline of a file

What an analysis finds in a file: its containers by kind and name, its free functions by
qualified name, and its line counts.
-/

namespace PhpOutline

/-- The symbols and line counts of a file. -/
structure Outline where
  classes : Std.TreeMap String Container := {}
  traits : Std.TreeMap String Container := {}
  interfaces : Std.TreeMap String Container := {}
  functions : Std.TreeMap String FunctionSymbol := {}
  lines : LineCount := default
deriving Inhabited

namespace Outline

/-- The containers of a kind. -/
def ofKind (o : Outline) : ContainerKind → Std.TreeMap String Container
  | .classDecl => o.classes
  | .traitDecl => o.traits
  | .interfaceDecl => o.interfaces

/-- The outline with the containers of a kind changed. -/
def modifyKind (o : Outline) (kind : ContainerKind)
    (f : Std.TreeMap String Container → Std.TreeMap String Container) : Outline :=
  match kind with
  | .classDecl => { o with classes := f o.classes }
  | .traitDecl => { o with traits := f o.traits }
  | .interfaceDecl => { o with interfaces := f o.interfaces }

/-- Files a container under its name; it takes the place of an earlier one of that kind. -/
def addContainer (o : Outline) (c : Container) : Outline :=
  o.modifyKind c.kind (·.insert c.name c)

/-- Files a method under the container with the given kind and name. -/
def addMethod (o : Outline) (kind : ContainerKind) (name : String) (method : FunctionSymbol) :
    Outline :=
  o.modifyKind kind (·.modify name (·.addMethod method))

/-- Files a free function under its qualified name. -/
def addFunction (o : Outline) (key : String) (f : FunctionSymbol) : Outline :=
  { o with functions := o.functions.insert key f }

/-- The container with the given name; classes come before traits and traits before
interfaces. -/
def container? (o : Outline) (name : String) : Option Container :=
  o.classes[name]? <|> o.traits[name]? <|> o.interfaces[name]?

/-- The method that a container's name, two colons and its own name give. -/
def method? (o : Outline) (qualified : String) : Option FunctionSymbol := do
  let (container, method) ← Text.splitOnce? [':', ':'] qualified.toList
  (← o.container? (String.ofList container)).method? (String.ofList method)

/-- All containers: classes, traits and interfaces, each kind by name. -/
def containers (o : Outline) : List Container :=
  o.classes.values ++ o.traits.values ++ o.interfaces.values

/-- All methods, container by container. -/
def methods (o : Outline) : List FunctionSymbol := o.containers.flatMap (·.methods.values)

/-- All methods and then all free functions. -/
def allFunctions (o : Outline) : List FunctionSymbol := o.methods ++ o.functions.values

/-- The number of containers and free functions. -/
def symbolCount (o : Outline) : Nat := o.containers.length + o.functions.size

/-- Nothing is declared in the file. -/
def isEmpty (o : Outline) : Bool := o.symbolCount == 0

end Outline

end PhpOutline
