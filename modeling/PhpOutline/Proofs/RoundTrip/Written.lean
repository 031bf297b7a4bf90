import PhpOutline.Outline.Basic
import PhpOutline.Proofs.Token.Spelling

/-!
# Written declarations

A file as its author writes it down: perhaps a namespace, then containers with their methods and
free functions, with the white space between all of it.  `FileDecl.render` gives the stream of raw
tokens, and `ContainerDecl.description` and `FunctionDecl.symbol` say what the outline of the file
ought to hold of each declaration.

The types carry what makes such a file well formed.  A parameter list has no curly brackets and no
semicolons, the curly brackets of a body are balanced, and neither has a word that declares
something.  Only the white space between a doc comment and its keyword matters: it has no empty
line.
-/

namespace PhpOutline

/-- The symbol of a function without what depends on its place in the file. -/
def FunctionSymbol.placeless (f : FunctionSymbol) : FunctionSymbol :=
  { f with startLine := 0, endLine := 0, complexity := 1 }

/-- What an outline says about a container, without what depends on its place in the file: the
container without its methods, and its methods by name. -/
structure ContainerDescription where
  head : Container
  method? : String → Option FunctionSymbol

/-- The description of a container. -/
def Container.description (c : Container) : ContainerDescription where
  head := { c with startLine := 0, endLine := 0, methods := {} }
  method? := fun name => c.methods[name]?.map (·.placeless)

/-- What an outline says about the container with the given kind and name. -/
def Outline.description? (o : Outline) (kind : ContainerKind) (name : String) :
    Option ContainerDescription :=
  (o.ofKind kind)[name]?.map (·.description)

/-- What an outline says about the free function with the given key. -/
def Outline.freeFunction? (o : Outline) (key : String) : Option FunctionSymbol :=
  o.functions[key]?.map (·.placeless)

namespace Written

open RawToken (hasKind)

/-! ### Tokens that declare nothing -/

/-- The words that declare something, a namespace or the end of the file included. -/
def declaringKinds : List Kind :=
  [.kwClass, .kwTrait, .kwInterface, .kwEnum, .kwFunction, .kwNamespace, .kwHaltCompiler]

/-- The kind is not that of a word that declares something. -/
def declaresNothing (k : Kind) : Bool := !declaringKinds.contains k

/-- A curly bracket, standing alone or inside a text. -/
def isCurly (k : Kind) : Bool := k.opensCurly || k == .closeCurly

/-- What may stand in a parameter list or a return type. -/
def isInline (k : Kind) : Bool := declaresNothing k && !isCurly k && k != .semicolon

/-- Lists of tokens whose curly brackets are balanced. -/
inductive Balanced : List RawToken → Prop
  | nil : Balanced []
  | token {t : RawToken} {ts : List RawToken} (notCurly : hasKind (!isCurly ·) t = true)
      (rest : Balanced ts) : Balanced (t :: ts)
  | group {first last : RawToken} {inner ts : List RawToken}
      (opens : hasKind Kind.opensCurly first = true) (within : Balanced inner)
      (closes : hasKind (· == .closeCurly) last = true) (rest : Balanced ts) :
      Balanced (first :: (inner ++ last :: ts))

/-! ### White space, names and words -/

/-- White space between two tokens: the texts of the tokens that it is made of. -/
abbrev Gap := List String

/-- The tokens of a gap. -/
def Gap.render (g : Gap) : List RawToken := g.map (.named .whitespace)

/-- A gap without an empty line. -/
structure NarrowGap where
  gap : Gap
  narrow : ∀ text ∈ gap, Text.newlines text.toList ≤ 1

/-- A name, possibly qualified: adjacent parts that make up a text. -/
structure Name where
  parts : List RawToken
  isNamePart : ∀ t ∈ parts, hasKind Kind.isNamePart t = true
  nonempty : RawToken.concat parts ≠ ""

/-- The text of a name. -/
def Name.text (n : Name) : String := RawToken.concat n.parts

/-- A word in front of the keyword of a declaration. -/
inductive Word
  | visibility (v : Visibility)
  | modifier (m : Modifier)
  | readonly

namespace Word

/-- The category of a word. -/
def category : Word → Category
  | visibility .publicAccess => .kwPublic
  | visibility .protectedAccess => .kwProtected
  | visibility .privateAccess => .kwPrivate
  | modifier .abstract => .kwAbstract
  | modifier .final => .kwFinal
  | modifier .static => .kwStatic
  | readonly => .kwReadonly

/-- The spelling of a word. -/
def text : Word → String
  | visibility v => v.name
  | modifier m => m.name
  | readonly => "readonly"

/-- The visibility that a word gives. -/
def visibility? : Word → Option Visibility
  | visibility v => some v
  | _ => none

/-- The modifier that a word is. -/
def modifier? : Word → Option Modifier
  | modifier m => some m
  | _ => none

/-- The token of a word. -/
def token (w : Word) : RawToken := .named w.category w.text

end Word

/-- What stands in front of the keyword: a doc comment, and words in any order. -/
structure Head where
  docComment : Option (String × NarrowGap)
  words : List (Word × NarrowGap)

namespace Head

/-- The text of the doc comment. -/
def docblock (h : Head) : Option String := h.docComment.map (·.1)

/-- The modifiers among the words. -/
def modifiers (h : Head) : Modifiers := .ofList (h.words.filterMap (·.1.modifier?))

/-- The visibility among the words; of several, the last one counts. -/
def visibility (h : Head) : Option Visibility := (h.words.filterMap (·.1.visibility?)).getLast?

/-- The tokens of the doc comment. -/
def renderDocComment (h : Head) : List RawToken :=
  match h.docComment with
  | some (text, g) => .named .docComment text :: g.gap.render
  | none => []

/-- The tokens of the words. -/
def renderWords (h : Head) : List RawToken :=
  h.words.flatMap fun (w, g) => w.token :: g.gap.render

/-- The tokens in front of the keyword. -/
def render (h : Head) : List RawToken := h.renderDocComment ++ h.renderWords

end Head

/-! ### Functions and methods -/

/-- The body of a function. -/
structure Body where
  tokens : List RawToken
  plain : ∀ t ∈ tokens, hasKind declaresNothing t = true
  balanced : Balanced tokens

/-- A function or method: the word `function`, the name, the parameters with the return type, and a
body or a semicolon. -/
structure FunctionDecl where
  head : Head
  gap : Gap
  name : String
  parameters : List RawToken
  isInline : ∀ t ∈ parameters, hasKind isInline t = true
  body : Option Body

namespace FunctionDecl

/-- The tokens that end the declaration, the last one apart. -/
def renderBody (f : FunctionDecl) : List RawToken :=
  match f.body with
  | some body => .punctuation '{' :: body.tokens
  | none => []

/-- The token that ends the declaration. -/
def last (f : FunctionDecl) : RawToken :=
  match f.body with
  | some _ => .punctuation '}'
  | none => .punctuation ';'

/-- The tokens behind the name. -/
def renderTail (f : FunctionDecl) : List RawToken := f.parameters ++ f.renderBody ++ [f.last]

/-- The tokens behind the keyword. -/
def renderBehind (f : FunctionDecl) : List RawToken :=
  f.gap.render ++ .named .identifier f.name :: f.renderTail

/-- The keyword. -/
def keyword : RawToken := .named .kwFunction "function"

/-- The tokens of the declaration. -/
def render (f : FunctionDecl) : List RawToken := f.head.render ++ keyword :: f.renderBehind

/-- What the outline ought to say about the function. -/
def symbol (f : FunctionDecl) : FunctionSymbol where
  name := some f.name
  docblock := f.head.docblock
  modifiers := f.head.modifiers
  visibility := f.head.visibility
  signature := String.ofList (Text.trim (RawToken.concat f.parameters).toList)

end FunctionDecl

/-! ### Containers -/

/-- A name with the white space on its two sides. -/
structure Item where
  before : Gap
  name : Name
  after : Gap

/-- The tokens of a name and of the white space around it. -/
def Item.render (i : Item) : List RawToken := i.before.render ++ (i.name.parts ++ i.after.render)

/-- The names behind the word `implements`, at least one. -/
structure Interfaces where
  first : Item
  others : List Item

namespace Interfaces

/-- The names in order. -/
def names (i : Interfaces) : List String := (i.first :: i.others).map (·.name.text)

/-- The tokens of the names and of the commas between them. -/
def render (i : Interfaces) : List RawToken :=
  i.first.render ++ i.others.flatMap fun item => .punctuation ',' :: item.render

end Interfaces

/-- A class, trait or interface: its keyword, its name, what it extends and implements, and its
methods. -/
structure ContainerDecl where
  head : Head
  kind : ContainerKind
  gap : Gap
  name : String
  nameGap : Gap
  parent : Option Item
  interfaces : Option Interfaces
  bodyGap : Gap
  methods : List (FunctionDecl × Gap)
  distinct : (methods.map (·.1.name)).Nodup

namespace ContainerDecl

/-- The word that declares a container. -/
def keyword : ContainerKind → RawToken
  | .classDecl => .named .kwClass "class"
  | .traitDecl => .named .kwTrait "trait"
  | .interfaceDecl => .named .kwInterface "interface"

/-- The tokens of the word `extends` and of the parent. -/
def renderParent (c : ContainerDecl) : List RawToken :=
  match c.parent with
  | some parent => .named .kwExtends "extends" :: parent.render
  | none => []

/-- The tokens of the word `implements` and of the interfaces. -/
def renderInterfaces (c : ContainerDecl) : List RawToken :=
  match c.interfaces with
  | some interfaces => .named .kwImplements "implements" :: interfaces.render
  | none => []

/-- The tokens between the name and the body. -/
def renderParents (c : ContainerDecl) : List RawToken :=
  c.nameGap.render ++ (c.renderParent ++ c.renderInterfaces)

/-- The tokens between the keyword and the body. -/
def renderHeader (c : ContainerDecl) : List RawToken :=
  c.gap.render ++ .named .identifier c.name :: c.renderParents

/-- The tokens of the methods. -/
def renderMethods (c : ContainerDecl) : List RawToken :=
  c.methods.flatMap fun (f, g) => f.render ++ g.render

/-- The tokens of the declaration. -/
def render (c : ContainerDecl) : List RawToken :=
  c.head.render ++ keyword c.kind :: (c.renderHeader ++ .punctuation '{' ::
    (c.bodyGap.render ++ c.renderMethods ++ [.punctuation '}']))

/-- The method with the given name. -/
def method? (c : ContainerDecl) (name : String) : Option FunctionDecl :=
  (c.methods.map (·.1)).find? (·.name = name)

/-- What the outline ought to say about the container in the given namespace. -/
def description (namespaceName : String) (c : ContainerDecl) : ContainerDescription where
  head :=
    { name := c.name
      kind := c.kind
      parent := c.parent.map (·.name.text)
      interfaces := c.interfaces.map (·.names)
      modifiers := c.head.modifiers
      docblock := c.head.docblock
      package := .ofDeclaration namespaceName c.name c.head.docblock }
  method? := fun name => (c.method? name).map (·.symbol)

end ContainerDecl

/-! ### Files -/

/-- The declaration of a namespace.  White space parts the keyword from the name; otherwise the two
could be one relative name. -/
structure NamespaceDecl where
  gap : Gap
  separated : gap ≠ []
  name : Name
  nameGap : Gap

namespace NamespaceDecl

/-- The tokens behind the keyword. -/
def renderBehind (n : NamespaceDecl) : List RawToken :=
  n.gap.render ++ (n.name.parts ++ (n.nameGap.render ++ [.punctuation ';']))

/-- The tokens of the declaration of a namespace. -/
def render (n : NamespaceDecl) : List RawToken :=
  .named .kwNamespace "namespace" :: n.renderBehind

end NamespaceDecl

/-- A declaration at the top of a file. -/
inductive Decl
  | container (c : ContainerDecl)
  | function (f : FunctionDecl)

namespace Decl

/-- The tokens of a declaration. -/
def render : Decl → List RawToken
  | container c => c.render
  | function f => f.render

/-- The container that is declared. -/
def container? : Decl → Option ContainerDecl
  | container c => some c
  | function _ => none

/-- The free function that is declared. -/
def function? : Decl → Option FunctionDecl
  | container _ => none
  | function f => some f

end Decl

/-- A file: the open tag, a namespace if there is one, and declarations.  No two containers have
one kind and one name, and no two functions one name. -/
structure FileDecl where
  gap : Gap
  namespaceDecl : Option (NamespaceDecl × Gap)
  declarations : List (Decl × Gap)
  containersDistinct :
    ((declarations.filterMap (·.1.container?)).map fun c => (c.kind, c.name)).Nodup
  functionsDistinct : ((declarations.filterMap (·.1.function?)).map (·.name)).Nodup

namespace FileDecl

/-- The containers of a file. -/
def containers (file : FileDecl) : List ContainerDecl :=
  file.declarations.filterMap (·.1.container?)

/-- The free functions of a file. -/
def functions (file : FileDecl) : List FunctionDecl :=
  file.declarations.filterMap (·.1.function?)

/-- The namespace that a file declares. -/
def namespaceName (file : FileDecl) : String :=
  (file.namespaceDecl.map (·.1.name.text)).getD ""

/-- The tokens in front of the declarations. -/
def renderPreamble (file : FileDecl) : List RawToken :=
  .named .openTag "<?php " ::
    (file.gap.render ++
      match file.namespaceDecl with
      | some (n, g) => n.render ++ g.render
      | none => [])

/-- The tokens of a list of declarations. -/
def renderDeclarations (declarations : List (Decl × Gap)) : List RawToken :=
  declarations.flatMap fun (d, g) => d.render ++ g.render

/-- The tokens of a file. -/
def render (file : FileDecl) : List RawToken :=
  file.renderPreamble ++ renderDeclarations file.declarations

end FileDecl

end Written

end PhpOutline
