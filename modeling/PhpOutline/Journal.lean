import PhpOutline.LineCount
import PhpOutline.Symbol.Attribute

/-!
# The journal of a run

What happens during an analysis is recorded as a list of events.  The debug log is that list put
into words, one or more lines to an event.
-/

namespace PhpOutline

/-- What opens a scope. -/
inductive ScopeKind
  | container (kind : ContainerKind)
  | enumeration
  | function
deriving DecidableEq, Inhabited

/-- The word for the kind of a scope. -/
def ScopeKind.name : ScopeKind → String
  | container kind => kind.name
  | enumeration => "enum"
  | function => "function"

/-- Something worth recording. -/
inductive Event
  /-- A configuration was read, with that many exclude patterns. -/
  | configured (path : String) (patterns : Nat)
  /-- A run over that many files starts. -/
  | started (files : Nat)
  /-- The pass over a file with that many tokens starts. -/
  | fileStarted (path : String) (tokens : Nat)
  /-- A scope was opened. -/
  | opened (kind : ScopeKind) (name : String) (startLine endLine : Nat)
  /-- A scope was closed. -/
  | closed (name : String) (endLine : Nat)
  /-- The brackets of a declaration never balance. -/
  | unbalanced (path : Option String) (line : Nat) (kind : ScopeKind) (name : String)
  /-- The pass ended early. -/
  | halted (line : Nat)
  /-- The pass over a file is done. -/
  | fileDone (path : String) (containers functions : Nat) (lines : LineCount)
  /-- A file could not be analyzed. -/
  | failed (path : String) (reason : String)
  /-- A run is done. -/
  | finished (analyzed failures : Nat)
deriving DecidableEq

namespace Event

/-- A title between two rules. -/
def banner (rule : Char) (width : Nat) (title : String) : List String :=
  let line := String.ofList (List.replicate width rule)
  [line, title, line]

/-- The title of a part of the log. -/
def sectionTitle (title : String) : List String := banner '=' 60 title

/-- The title of a file in the log. -/
def fileTitle (title : String) : List String := banner '-' 40 title

/-- The lines of the log for an event. -/
def messages : Event → List String
  | configured path patterns =>
    sectionTitle "CONFIGURATION" ++
      [s!"Loaded config from: {path}", s!"Exclude patterns: {patterns}"]
  | started files => sectionTitle "ANALYSIS START" ++ [s!"Analyzing {files} files"]
  | fileStarted path tokens => fileTitle s!"FILE {path}" ++ [s!"Tokens: {tokens}"]
  | opened kind name startLine endLine =>
    [s!"Open {kind.name} {name} (lines {startLine}-{endLine})"]
  | closed name endLine =>
    let label := if name.isEmpty then "anonymous function" else name
    [s!"Close {label} at line {endLine}"]
  | unbalanced path line kind name =>
    let location := path.getD ""
    [s!"UNBALANCED: {location}:{line} {kind.name} {name} " ++
      "has no matching close, using zero-length range"]
  | halted line => [s!"Halt marker at line {line}, remaining input ignored"]
  | fileDone path containers functions lines =>
    [s!"{path}: {containers} containers, {functions} functions, " ++
      s!"loc={lines.total} cloc={lines.comment} ncloc={lines.code}"]
  | failed path reason => [s!"FAILED: {path} - {reason}"]
  | finished analyzed failures =>
    sectionTitle "ANALYSIS COMPLETE" ++
      [s!"Files analyzed: {analyzed}", s!"Files failed: {failures}"]

end Event

end PhpOutline
