import PhpOutline.Declaration.Complexity
import PhpOutline.Declaration.Name
import PhpOutline.Declaration.Scope
import PhpOutline.Journal
import PhpOutline.Lexer.Tokenize
import PhpOutline.Outline.Basic
import PhpOutline.Scope.Tracker

/-!
# The pass over a file

One pass over the tokens of a file builds its outline.  At every keyword of a declaration the
symbol is read off the tokens around it, and the open scopes decide where it is filed: a function
under the open container, or as a free function, and nowhere inside a mask.  The pass ends at the
word that halts the compiler.
-/

namespace PhpOutline

namespace Declaration

/-- The nearest token before the given index that is not white space has the given kind. -/
def follows (tokens : List Token) (index : Nat) (kind : Kind) : Bool :=
  (Cursor.ofIndex tokens index).skipWhitespaceBack.current.any (·.kind = kind)

/-- The line on which the declaration with the given keyword ends. -/
def endLine (tokens : List Token) (index : Nat) (keyword : Token) : Nat :=
  (tokens[lastIndex tokens index]?.map (·.line)).getD keyword.line

/-- The container that a keyword declares, given its name and the index of the name. -/
def container (tokens : List Token) (index : Nat) (keyword : Token) (kind : ContainerKind)
    (name : String) (nameIndex : Nat) : Container :=
  let docblock := docblock? tokens index
  { name, kind, docblock
    parent := parent? tokens nameIndex
    interfaces := interfaces? tokens nameIndex
    modifiers := modifiers tokens index
    startLine := keyword.line
    endLine := endLine tokens index keyword
    package := .ofDeclaration (namespaceAt tokens index) name docblock }

/-- The function that a keyword declares. -/
def function (tokens : List Token) (index : Nat) (keyword : Token) : FunctionSymbol :=
  let name? := functionName? tokens index
  { name := name?.map (·.1)
    docblock := docblock? tokens index
    modifiers := modifiers tokens index
    visibility := visibility? tokens index
    signature := signature tokens ((name?.map (·.2)).getD index)
    startLine := keyword.line
    endLine := endLine tokens index keyword
    complexity := complexity tokens index (lastIndex tokens index) }

end Declaration

/-- The state of the pass: the open scopes, the outline and the comment lines so far, and what
has happened. -/
structure Pass where
  tracker : Tracker := {}
  outline : Outline := {}
  commentLines : Nat := 0
  events : List Event := []
deriving Inhabited

namespace Pass

open Declaration

/-- Records an event. -/
def record (s : Pass) (e : Event) : Pass := { s with events := s.events ++ [e] }

/-- Records that the brackets of the declaration at the given index never balance, if so. -/
def recordBalance (s : Pass) (path : Option String) (tokens : List Token) (index : Nat)
    (keyword : Token) (kind : ScopeKind) (name : String) : Pass :=
  match scopeEnd? tokens index with
  | some _ => s
  | none => s.record (.unbalanced path keyword.line kind name)

/-- Masks the declaration at the given index. -/
def mask (s : Pass) (tokens : List Token) (index : Nat) : Pass :=
  { s with tracker := s.tracker.maskUntil (lastIndex tokens index) }

/-- Files a container and opens its scope, unless one is open. -/
def fileContainer (s : Pass) (c : Container) (endIndex : Nat) : Pass :=
  let (isOpened, tracker) :=
    s.tracker.openContainer c.kind ⟨c.name, c.startLine, c.endLine, endIndex⟩
  let s := { s with tracker, outline := s.outline.addContainer c }
  if isOpened then s.record (.opened (.container c.kind) c.name c.startLine c.endLine) else s

/-- Handles the keyword of a container.  Behind a double colon the word declares nothing; an
anonymous container masks its body. -/
def onContainer (s : Pass) (path : Option String) (tokens : List Token) (index : Nat)
    (keyword : Token) (kind : ContainerKind) : Pass :=
  if follows tokens index .doubleColon then s
  else
    match containerName? tokens index with
    | none => s.mask tokens index
    | some (name, nameIndex) =>
      (s.recordBalance path tokens index keyword (.container kind) name).fileContainer
        (container tokens index keyword kind name nameIndex) (lastIndex tokens index)

/-- Handles the keyword of an enumeration, which masks its body. -/
def onEnum (s : Pass) (path : Option String) (tokens : List Token) (index : Nat)
    (keyword : Token) : Pass :=
  let name := ((containerName? tokens index).map (·.1)).getD ""
  (s.recordBalance path tokens index keyword .enumeration name).mask tokens index

/-- Opens the scope of a function, unless one is open. -/
def openFunction (s : Pass) (f : FunctionSymbol) (endIndex : Nat) : Pass :=
  let (isOpened, tracker) :=
    s.tracker.openFunction ⟨f.name.getD "", f.startLine, f.endLine, endIndex⟩
  let s := { s with tracker }
  if isOpened then s.record (.opened .function f.label f.startLine f.endLine) else s

/-- Files a function under the open container, or as a free function.  Anonymous and masked
functions are not filed. -/
def fileFunction (s : Pass) (tokens : List Token) (index : Nat) (f : FunctionSymbol) : Pass :=
  match f.name with
  | none => s
  | some name =>
    if s.tracker.isMasked index then s
    else
      match s.tracker.container with
      | some (kind, frame) => { s with outline := s.outline.addMethod kind frame.name f }
      | none =>
        let key := qualify (namespaceAt tokens index) name
        { s with outline := s.outline.addFunction key f }

/-- Handles the keyword of a function.  Behind `use` the word declares nothing. -/
def onFunction (s : Pass) (path : Option String) (tokens : List Token) (index : Nat)
    (keyword : Token) : Pass :=
  if follows tokens index .kwUse then s
  else
    let f := function tokens index keyword
    ((s.recordBalance path tokens index keyword .function f.label).openFunction f
      (lastIndex tokens index)).fileFunction tokens index f

/-- Handles a token. -/
def visit (path : Option String) (tokens : List Token) (s : Pass) (index : Nat) (t : Token) :
    Pass :=
  match ContainerKind.ofKind? t.kind with
  | some kind => s.onContainer path tokens index t kind
  | none =>
    if t.kind = .kwEnum then s.onEnum path tokens index t
    else if t.kind = .kwFunction then s.onFunction path tokens index t
    else if t.kind.isComment then
      { s with commentLines := s.commentLines + LineCount.ofComment t.text }
    else s

/-- Closes the scopes that end at the given index, the function first. -/
def close (s : Pass) (index : Nat) : Pass :=
  let closing :=
    (s.tracker.functionEndingAt? index).toList ++
      ((s.tracker.containerEndingAt? index).map (·.2)).toList
  { s with
    tracker := s.tracker.closeAt index
    events := s.events ++ closing.map fun frame => .closed frame.name frame.endLine }

/-- Handles a token and closes the scopes that end with it. -/
def step (path : Option String) (tokens : List Token) (s : Pass) (entry : Token × Nat) : Pass :=
  (s.visit path tokens entry.2 entry.1).close entry.2

/-- The tokens that the pass reaches: those before the word that halts the compiler. -/
def reached (tokens : List Token) : List Token := tokens.takeWhile (·.kind != .kwHaltCompiler)

/-- The line of the word that halts the compiler, if the tokens have one. -/
def haltLine? (tokens : List Token) : Option Nat :=
  (tokens.find? (·.kind == .kwHaltCompiler)).map (·.line)

/-- The state after the last token that the pass reaches. -/
def run (path : Option String) (tokens : List Token) : Pass :=
  (reached tokens).zipIdx.foldl (step path tokens) {}

end Pass

/-- The outline of a file and what happened while it was built. -/
structure Analysis where
  outline : Outline
  events : List Event

namespace Analysis

/-- Analyzes prepared tokens.  The path of the file is only recorded. -/
def ofTokens (path : Option String) (tokens : List Token) : Analysis :=
  let s := Pass.run path tokens
  let haltLine := Pass.haltLine? tokens
  { outline := { s.outline with lines := LineCount.ofFile tokens s.commentLines haltLine }
    events := s.events ++ (haltLine.map Event.halted).toList }

/-- Analyzes a stream of raw tokens from any lexer. -/
def ofRawTokens (raws : List RawToken) : Except UnknownPunctuation Analysis :=
  (Token.prepare raws).map (ofTokens none)

/-- Analyzes the source of the file with the given path. -/
def ofSource (path source : String) : Except UnknownPunctuation Analysis :=
  (Token.prepare (Lexer.tokenize source)).map fun tokens =>
    let a := ofTokens (some path) tokens
    let o := a.outline
    let done := Event.fileDone path o.containers.length o.allFunctions.length o.lines
    { a with events := .fileStarted path tokens.length :: a.events ++ [done] }

end Analysis

end PhpOutline
