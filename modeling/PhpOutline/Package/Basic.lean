import PhpOutline.Package.Tag
import PhpOutline.Text.Split

/-!
# Packages

The package of a container comes from the tags of its doc comment or, without a package tag, from
its qualified name.
-/

namespace PhpOutline

/-- A name with the namespace in front, if there is one. -/
def qualify (namespaceName name : String) : String :=
  if namespaceName.isEmpty then name else namespaceName ++ "\\" ++ name

/-- Where a container belongs.  A missing tag is an empty text. -/
structure Package where
  namespaceName : String := ""
  category : String := ""
  package : String := ""
  subpackage : String := ""
  fullPackage : String := ""
deriving DecidableEq, Inhabited

namespace Package

/-- The package that a qualified name gives: its segments between underscores and backslashes, the
last one left out, joined by dots. -/
def derived (qualified : String) : String :=
  let segments := Text.splitWhere (fun c => c == '_' || c == '\\') qualified.toList
  let named := segments.filter (!·.isEmpty)
  ".".intercalate (named.dropLast.map String.ofList)

/-- The package of the container with the given namespace, name and doc comment. -/
def ofDeclaration (namespaceName name : String) (docblock : Option String) : Package :=
  let tags := (docblock.map PackageTags.ofDocblock).getD {}
  { namespaceName
    category := tags.category.getD ""
    package := tags.package.getD ""
    subpackage := tags.subpackage.getD ""
    fullPackage := tags.fullPackage?.getD (derived (qualify namespaceName name)) }

end Package

end PhpOutline
