import PhpOutline.Outline.Basic
import PhpOutline.Report.JsonValue

/-!
# Outlines as JSON

The members of every object stand in a fixed order, and tables are written by name.
-/

namespace PhpOutline

open JsonValue

/-- The names of the modifiers in order. -/
def Modifiers.toJson (m : Modifiers) : JsonValue := .arr (m.toList.map fun x => .str x.name)

/-- The line counts of a file. -/
def LineCount.toJson (l : LineCount) : JsonValue :=
  .obj [("loc", .nat l.total), ("cloc", .nat l.comment), ("ncloc", .nat l.code)]

/-- A package with all its fields. -/
def Package.toJson (p : Package) : JsonValue :=
  .obj [("namespace", .str p.namespaceName), ("category", .str p.category),
    ("package", .str p.package), ("subpackage", .str p.subpackage),
    ("fullPackage", .str p.fullPackage)]

/-- A function with all its fields. -/
def FunctionSymbol.toJson (f : FunctionSymbol) : JsonValue :=
  .obj [("name", .str f.label), ("docblock", ofText? f.docblock),
    ("modifiers", f.modifiers.toJson), ("visibility", ofText? (f.visibility.map (·.name))),
    ("signature", .str f.signature), ("startLine", .nat f.startLine),
    ("endLine", .nat f.endLine), ("complexity", .nat f.complexity)]

/-- A table of functions. -/
def FunctionSymbol.tableToJson (t : Std.TreeMap String FunctionSymbol) : JsonValue :=
  .obj (t.toList.map fun entry => (entry.1, entry.2.toJson))

/-- A container with all its fields. -/
def Container.toJson (c : Container) : JsonValue :=
  .obj [("name", .str c.name), ("kind", .str c.kind.name), ("parent", ofText? c.parent),
    ("interfaces", ofOption (fun names => .arr (names.map .str)) c.interfaces),
    ("modifiers", c.modifiers.toJson), ("docblock", ofText? c.docblock),
    ("startLine", .nat c.startLine), ("endLine", .nat c.endLine),
    ("package", c.package.toJson), ("methods", FunctionSymbol.tableToJson c.methods)]

/-- A table of containers. -/
def Container.tableToJson (t : Std.TreeMap String Container) : JsonValue :=
  .obj (t.toList.map fun entry => (entry.1, entry.2.toJson))

/-- The members of the object for an outline. -/
def Outline.toMembers (o : Outline) : List (String × JsonValue) :=
  [("classes", Container.tableToJson o.classes), ("traits", Container.tableToJson o.traits),
   ("interfaces", Container.tableToJson o.interfaces),
   ("functions", FunctionSymbol.tableToJson o.functions), ("linesOfCode", o.lines.toJson)]

/-- An outline with all its fields. -/
def Outline.toJson (o : Outline) : JsonValue := .obj o.toMembers

end PhpOutline
