import PhpOutline.Files.Discovery
import PhpOutline.Outline.Pass

/-!
# Surveys

A survey is the analysis of all files that some paths stand for.  Every file has its analysis or
its error.
-/

namespace PhpOutline

/-- Analyzes the file that a path leads to. -/
def FileTree.analyze (t : FileTree) (path : String) : Except FileError Analysis :=
  match t.read path with
  | .error e => .error (.unreadable path e)
  | .ok source =>
    match Analysis.ofSource path source with
    | .error e => .error (.token path e)
    | .ok a => .ok a

/-- A file and what came of its analysis. -/
structure SurveyEntry where
  path : String
  result : Except FileError Analysis

/-- What came of the analysis of many files: the analyses, and the errors of the files that have
none, both in the order of the paths. -/
structure Survey where
  analyses : List (String × Analysis)
  errors : List FileError

namespace Survey

/-- Sorts entries into analyses and errors. -/
def ofEntries (entries : List SurveyEntry) : Survey where
  analyses := entries.filterMap fun e =>
    match e.result with
    | .ok analysis => some (e.path, analysis)
    | .error _ => none
  errors := entries.filterMap fun e =>
    match e.result with
    | .ok _ => none
    | .error error => some error

/-- The survey of some files, by what came of each of them. -/
def ofFiles (files : List String) (result : String → Except FileError Analysis) : Survey :=
  ofEntries (files.map fun path => ⟨path, result path⟩)

/-- Analyzes the files that the paths stand for. -/
def ofPaths (t : FileTree) (exclusions : List Exclusion) (paths : List String) : Survey :=
  ofFiles (t.collect exclusions paths) t.analyze

/-- The analyses and the errors together, in the order of their paths. -/
def entries (s : Survey) : List SurveyEntry :=
  let all := s.analyses.map (fun a => ⟨a.1, .ok a.2⟩) ++ s.errors.map (fun e => ⟨e.path, .error e⟩)
  all.mergeSort fun a b => (Path.compare a.path b.path).isLE

/-- The outlines of the files that were analyzed. -/
def outlines (s : Survey) : List Outline := s.analyses.map (·.2.outline)

/-- The lines of all analyzed files together. -/
def lines (s : Survey) : LineCount := .sum (s.outlines.map (·.lines))

/-- What happened during the survey: the analyses one by one, and then the failures. -/
def events (s : Survey) : List Event :=
  .started (s.analyses.length + s.errors.length) ::
    (s.analyses.flatMap (·.2.events) ++
      s.errors.map (fun e => .failed e.path e.message) ++
      [.finished s.analyses.length s.errors.length])

end Survey

end PhpOutline
