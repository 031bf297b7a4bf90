import PhpOutline.Report.Encode
import PhpOutline.Report.Summary

/-!
# Reports as JSON

One document for the whole survey: the totals, and every file with its outline or its error.
-/

namespace PhpOutline

/-- The version that reports name. -/
def version : String := "0.1.0"

/-- What came of a file, as an object. -/
def SurveyEntry.toJson (e : SurveyEntry) : JsonValue :=
  match e.result with
  | .ok analysis => .obj (("path", .str e.path) :: analysis.outline.toMembers)
  | .error error => .obj [("path", .str e.path), ("error", .str error.reason)]

/-- The report on some entries with their totals. -/
def reportDocument (summary : Summary) (entries : List SurveyEntry) : JsonValue :=
  .obj [("version", .str version), ("summary", summary.toJson),
    ("files", .arr (entries.map SurveyEntry.toJson))]

end PhpOutline
