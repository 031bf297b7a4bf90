import PhpOutline.Report.Style
import PhpOutline.Report.Summary

/-!
# Reports as text

A report on files as lines of text: the symbols of every file, one to a line, and the totals at the
end.
-/

namespace PhpOutline

/-- How a report is written. -/
structure TextOptions where
  color : Bool := false
  /-- Signatures are shown. -/
  verbose : Bool := false
deriving DecidableEq, Inhabited

/-- A word with a blank behind it. -/
def wordAndBlank (word : String) : String := word ++ " "

/-- The first and last line of a declaration. -/
def lineRange (startLine endLine : Nat) : String := s!"(lines {startLine}-{endLine})"

/-- The modifiers, each with a blank behind it. -/
def Modifiers.text (m : Modifiers) : String :=
  String.join (m.toList.map fun x => wordAndBlank x.name)

/-- A function on one line, unless its signature has several.  A high complexity stands out. -/
def FunctionSymbol.text (o : TextOptions) (f : FunctionSymbol) : String :=
  let visibility := f.visibility.elim "" fun v => wordAndBlank v.name
  let signature := if o.verbose then f.signature else ""
  let style : Style := if f.complexity > 10 then .red else .plain
  visibility ++ f.modifiers.text ++ "function " ++ f.label ++ signature ++ " " ++
    style.paint o.color s!"ccn={f.complexity}" ++ " " ++ lineRange f.startLine f.endLine

/-- The head of a container on one line. -/
def Container.text (o : TextOptions) (c : Container) : String :=
  let parent := c.parent.elim "" (" extends " ++ ·)
  let interfaces := c.interfaces.elim "" (" implements " ++ ", ".intercalate ·)
  let package := if c.package.fullPackage.isEmpty then "" else s!" [{c.package.fullPackage}]"
  c.modifiers.text ++ c.kind.name ++ " " ++ Style.bold.paint o.color c.qualifiedName ++ parent ++
    interfaces ++ " " ++ lineRange c.startLine c.endLine ++ package

/-- A container and its methods. -/
def Container.textLines (o : TextOptions) (c : Container) : List String :=
  ("  " ++ c.text o) :: c.methods.values.map fun f => "    " ++ f.text o

/-- The line counts of a file. -/
def LineCount.text (l : LineCount) : String :=
  s!"loc={l.total} cloc={l.comment} ncloc={l.code}"

/-- The lines on a file. -/
def Outline.textLines (o : TextOptions) (path : String) (outline : Outline) : List String :=
  Style.bold.paint o.color path ::
    (outline.containers.flatMap (Container.textLines o) ++
      outline.functions.toList.map (fun entry =>
        "  " ++ Style.cyan.paint o.color entry.1 ++ " " ++ entry.2.text o) ++
      ["  " ++ Style.green.paint o.color "->" ++ " " ++ outline.lines.text, ""])

/-- The totals at the end. -/
def Summary.textLines (o : TextOptions) (s : Summary) : List String :=
  ["", Style.title.paint o.color "Summary", s!"  Files analyzed: {s.files}",
    s!"  Classes: {s.classes}", s!"  Traits: {s.traits}", s!"  Interfaces: {s.interfaces}",
    s!"  Functions: {s.functions}", s!"  Methods: {s.methods}",
    s!"  Lines: {s.totalLines} (comment {s.commentLines}, non-comment {s.codeLines})"] ++
    if s.errors > 0 then [s!"  Errors: {s.errors}"] else []

/-- A warning. -/
def warning (o : TextOptions) (text : String) : String :=
  Style.yellow.paint o.color "Warning" ++ ": " ++ text

namespace SurveyEntry

/-- The lines on an analyzed file. -/
def textLines (o : TextOptions) (e : SurveyEntry) : List String :=
  match e.result with
  | .ok analysis => analysis.outline.textLines o e.path
  | .error _ => []

/-- The warning about a file without an analysis. -/
def warnings (o : TextOptions) (e : SurveyEntry) : List String :=
  match e.result with
  | .ok _ => []
  | .error error => [warning o s!"{e.path} - {error.reason}"]

end SurveyEntry

end PhpOutline
