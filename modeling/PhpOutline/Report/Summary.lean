import PhpOutline.Report.JsonValue
import PhpOutline.Survey

/-!
# Summaries

The totals of a survey: how many files, symbols, lines and errors there are.
-/

namespace PhpOutline

/-- The totals of a survey. -/
structure Summary where
  files : Nat := 0
  classes : Nat := 0
  traits : Nat := 0
  interfaces : Nat := 0
  functions : Nat := 0
  methods : Nat := 0
  totalLines : Nat := 0
  commentLines : Nat := 0
  codeLines : Nat := 0
  errors : Nat := 0
deriving DecidableEq, Inhabited

namespace Summary

/-- Adds the outline of a file. -/
def addOutline (s : Summary) (o : Outline) : Summary :=
  { s with
    files := s.files + 1
    classes := s.classes + o.classes.size
    traits := s.traits + o.traits.size
    interfaces := s.interfaces + o.interfaces.size
    functions := s.functions + o.functions.size
    methods := s.methods + o.containers.foldr (·.methods.size + ·) 0
    totalLines := s.totalLines + o.lines.total
    commentLines := s.commentLines + o.lines.comment
    codeLines := s.codeLines + o.lines.code }

/-- Adds what came of a file. -/
def add (s : Summary) (e : SurveyEntry) : Summary :=
  match e.result with
  | .ok analysis => s.addOutline analysis.outline
  | .error _ => { s with errors := s.errors + 1 }

/-- The totals of some entries. -/
def ofEntries (entries : List SurveyEntry) : Summary := entries.foldl add {}

/-- The totals with their names. -/
def toJson (s : Summary) : JsonValue :=
  .obj [("files_analyzed", .nat s.files), ("classes", .nat s.classes), ("traits", .nat s.traits),
    ("interfaces", .nat s.interfaces), ("functions", .nat s.functions),
    ("methods", .nat s.methods), ("loc", .nat s.totalLines), ("cloc", .nat s.commentLines),
    ("ncloc", .nat s.codeLines), ("errors", .nat s.errors)]

end Summary

end PhpOutline
