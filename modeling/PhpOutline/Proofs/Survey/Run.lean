import PhpOutline.Command.Run
import PhpOutline.Proofs.Files.Writing
import PhpOutline.Proofs.Survey.Entries

/-!
# What a run reports

When arguments and configuration are settled, a command reports on every file that its arguments
stand for, once and in the order of paths, whatever its plan is, whatever it leaves out and whatever
comes of each file.  The totals of the report and its exit code follow from what came of the files
(`run_reports_every_file`).

Every command that gets this far (`Start`) carries out such a plan.  Each file has the outcome of
its own analysis, in the tree as it is when the file is read.  Only a debug log changes while files
are analyzed, and no other file is read otherwise because of it (`Start.run_eq_carryOut`).
-/

namespace PhpOutline

/-! ### Reports -/

/-- Paths that lead nowhere stand for no files. -/
lemma FileTree.collect_filter_pathExists (t : FileTree) (exclusions : List Exclusion)
    (paths : List String) :
    t.collect exclusions (paths.filter t.pathExists) = t.collect exclusions paths := by
  rw [collect, collect]
  congr 1
  induction paths with
  | nil => rfl
  | cons path paths ih =>
    by_cases hexists : t.pathExists path = true
    · simp [hexists, ih]
    · have hfiles : t.filesAt exclusions path = [] := by
        rw [pathExists] at hexists
        rw [filesAt]
        cases hresolve : t.resolve path with
        | error e => rfl
        | ok n => simp [hresolve, Except.toBool] at hexists
      simp [hexists, ih, hfiles]

/-- Merging gives back what came of the files: one entry for each of them, in their order. -/
lemma Survey.entries_ofFiles {files : List String} {result : String → Except FileError Analysis}
    (hnames : ∀ path error, result path = .error error → error.path = path)
    (hlt : files.Pairwise fun p q => Path.compare p q = .lt) :
    (ofFiles files result).entries = files.map fun path => ⟨path, result path⟩ := by
  refine entries_ofEntries (fun e he => ?_) ?_
  · obtain ⟨path, -, rfl⟩ := List.mem_map.1 he
    exact hnames path
  · rw [List.map_map]
    exact (List.map_id files).symm ▸ hlt

namespace Plan

/-- A report ends with the exit code `1` just if there is an error among its entries. -/
lemma exitCode_report (p : Plan) (a : Arguments) (color : Bool) (missing : List String)
    (survey : Survey) (before : Outcome) :
    (p.report a color missing survey before).exitCode = 1 ↔
      ∃ e ∈ survey.entries, ∃ error, e.result = .error error := by
  have hcode : (p.report a color missing survey before).exitCode =
      if (Summary.ofEntries survey.entries).errors > 0 then 1 else 0 := by
    rw [report]
    cases p.format <;> rfl
  rw [hcode, ← Summary.errors_pos]
  simp

lemma carryOut_eq_report (p : Plan) (a : Arguments) (color : Bool) (t : FileTree)
    (exclusions : List Exclusion) (resultOf : List String → String → Except FileError Analysis)
    (before : Outcome) :
    p.carryOut a color t exclusions resultOf before =
      p.report a color (a.paths.filter (not ∘ t.pathExists))
        (.ofFiles (t.collect exclusions a.paths) (resultOf (t.collect exclusions a.paths)))
        before := by
  rw [carryOut, List.partition_eq_filter_filter]
  simp only [FileTree.collect_filter_pathExists]

end Plan

/-- A plan that is carried out reports on exactly the files that the arguments stand for, in their
order and each once, with what came of each of them, be it an analysis or an error that names the
file.  What is sorted into analyses and errors and merged again is the same list.  Every file counts
as analyzed or as an error; the totals are the sums over the analyzed files, and those of the lines
are the lines of the survey.  The exit code is `1` just if the analysis of some file fails. -/
theorem run_reports_every_file (p : Plan) (a : Arguments) (color : Bool) (t : FileTree)
    (exclusions : List Exclusion) (resultOf : List String → String → Except FileError Analysis)
    (before : Outcome)
    (hnames : ∀ files path error, resultOf files path = .error error → error.path = path) :
    let files := t.collect exclusions a.paths
    let survey := Survey.ofFiles files (resultOf files)
    let entries := survey.entries
    let summary := Summary.ofEntries entries
    let outcome := p.carryOut a color t exclusions resultOf before
    outcome = p.report a color (a.paths.filter (not ∘ t.pathExists)) survey before ∧
      entries = files.map (fun path => ⟨path, resultOf files path⟩) ∧
      (files.map Path.components).Nodup ∧
      summary.files + summary.errors = files.length ∧
      summary = .sum survey.outlines survey.errors.length ∧
      summary.totalLines = survey.lines.total ∧ summary.commentLines = survey.lines.comment ∧
      summary.codeLines = survey.lines.code ∧
      summary.commentLines + summary.codeLines = summary.totalLines ∧
      (outcome.exitCode = 1 ↔ ∃ path ∈ files, ∃ error, resultOf files path = .error error) := by
  intro files survey entries summary outcome
  have houtcome : outcome = p.report a color (a.paths.filter (not ∘ t.pathExists)) survey before :=
    p.carryOut_eq_report a color t exclusions resultOf before
  have hentries : entries = files.map fun path => ⟨path, resultOf files path⟩ :=
    Survey.entries_ofFiles (hnames files) (FileTree.pairwise_collect _ _ _)
  have hsummary : summary = .sum survey.outlines survey.errors.length := by
    rw [show summary = .ofEntries entries from rfl, hentries]
    exact Summary.ofEntries_eq_sum _
  obtain ⟨htotal, hcomment, hcode⟩ := survey.lines_eq_sum
  have hlines : summary.totalLines = survey.lines.total ∧
      summary.commentLines = survey.lines.comment ∧ summary.codeLines = survey.lines.code := by
    rw [hsummary, htotal, hcomment, hcode]
    exact ⟨rfl, rfl, rfl⟩
  refine ⟨houtcome, hentries, FileTree.nodup_map_components_collect _ _ _, ?_, hsummary, hlines.1,
    hlines.2.1, hlines.2.2, ?_, ?_⟩
  · rw [Summary.files_add_errors, hentries, List.length_map]
  · rw [hlines.1, hlines.2.1, hlines.2.2]
    exact survey.lines.comment_add_code
  · rw [houtcome, Plan.exitCode_report, show survey.entries = entries from rfl, hentries]
    simp

/-! ### Commands -/

namespace DebugLog

/-- A file is read in the tree with the log written, whether or not it is the log. -/
lemma analyze_eq (log : DebugLog) {t : FileTree} {content : ByteArray}
    (h : t.root.get? log.location = some (.file content)) (seen : String → List Event)
    (path : String) :
    log.analyze t seen path = ((log.record (seen path)).writeTo t).analyze path := by
  rw [analyze]
  split
  case isTrue => rfl
  case isFalse hat =>
    have hread : ((log.record (seen path)).writeTo t).read path = t.read path := by
      refine FileTree.read_write h _ fun hlocate => hat ?_
      simp [isAt, hlocate, Except.toOption]
    simp only [FileTree.analyze, hread]

lemma record_record (log : DebugLog) (events events' : List Event) :
    (log.record events).record events' = log.record (events ++ events') := by
  simp [record]

end DebugLog

/-- A command that gets as far as its survey, with what it has settled until then: its arguments,
the debug log that it has opened, its plan and the patterns for the files that it leaves out. -/
structure Start (t : FileTree) (time : String) (arguments : List String) where
  args : Arguments
  log : Option DebugLog
  plan : Plan
  exclusions : List Exclusion
  parse_eq : Arguments.parse arguments = .ok args
  openLog_eq : args.openLog t time = .ok log
  plan_eq : args.plan (Outcome.treeAfter { debugLog := log } t) = .ok plan
  parseAll_eq : Exclusion.parseAll plan.config.exclude = .ok exclusions

namespace Start

variable {t : FileTree} {time : String} {arguments : List String} (s : Start t time arguments)
  (schedule : DebugLog.Schedule)

/-- The tree after the log was opened. -/
def tree : FileTree := Outcome.treeAfter { debugLog := s.log } t

/-- What the command leaves behind before its survey. -/
def before (color : Bool) : Outcome :=
  { debugLog := s.log.map (·.record s.plan.events), output := s.plan.greeting s.args color }

/-- The tree at the moment when one of the surveyed files is read: the log has grown by what was
recorded of the configuration and of the other files. -/
def treeAt (files : List String) (path : String) : FileTree :=
  match s.log with
  | none => s.tree
  | some log =>
    let started := log.record (s.plan.events ++ [.started files.length])
    (started.record (schedule s.tree started files path)).writeTo s.tree

lemma get?_location {log : DebugLog} (hlog : s.log = some log) :
    s.tree.root.get? log.location = some (.file log.text.toUTF8) := by
  rw [tree, Outcome.treeAfter, hlog]
  exact Node.get?_set_self _ _ _

/-- Each file is analyzed in the tree as it is when the file is read. -/
lemma resultOf_before (color : Bool) (files : List String) (path : String) :
    (s.before color).resultOf s.tree schedule files path =
      (s.treeAt schedule files path).analyze path := by
  cases hlog : s.log with
  | none => simp [before, treeAt, Outcome.resultOf, hlog]
  | some log =>
    simp only [before, treeAt, Outcome.resultOf, hlog, Option.map_some]
    rw [DebugLog.record_record]
    have hfile := s.get?_location hlog
    exact (log.record _).analyze_eq hfile _ path

/-- A command that gets as far as its survey carries out its plan, with each file analyzed in the
tree as it is when the file is read. -/
theorem run_eq_carryOut (color : Bool) : run t color time arguments schedule =
    s.plan.carryOut s.args color s.tree s.exclusions
      (fun files path => (s.treeAt schedule files path).analyze path) (s.before color) := by
  have hresult : (s.before color).resultOf s.tree schedule =
      fun files path => (s.treeAt schedule files path).analyze path := by
    funext files path
    exact s.resultOf_before schedule color files path
  rw [run, s.parse_eq, ← hresult]
  simp only [Arguments.run, s.openLog_eq, s.plan_eq, s.parseAll_eq]
  rfl

end Start

/-- A source file and a file that is no text. -/
def mixedTree : FileTree where
  root := .directory
    [("a.php", .file "<?php\nfunction f() {}\n".toUTF8), ("b.php", .file ⟨#[0xff]⟩)]
  workingDirectory := []

/-- A command that analyzes both files, and its own debug log as a third one. -/
def mixedStart : Start mixedTree ""
    ["--no-config", "--debug-log", "c.php", "a.php", "b.php", "c.php"] where
  args := { paths := ["a.php", "b.php", "c.php"], noConfig := true, debugLog := some "c.php" }
  log := some { location := ["c.php"], time := "" }
  plan := { format := .text, config := {}, configPath := none }
  exclusions := []
  parse_eq := rfl
  openLog_eq := rfl
  plan_eq := rfl
  parseAll_eq := rfl

/-- All three files are reported, and the one that cannot be read decides the exit code. -/
theorem run_mixedTree :
    let outcome := run mixedTree false ""
      ["--no-config", "--debug-log", "c.php", "a.php", "b.php", "c.php"]
    outcome.exitCode = 1 ∧ ∃ survey : Survey,
      survey.entries.map (·.path) = ["a.php", "b.php", "c.php"] ∧
      outcome =
        mixedStart.plan.report mixedStart.args false [] survey (mixedStart.before false) := by
  intro outcome
  obtain ⟨houtcome, hentries, -, -, -, -, -, -, -, hexit⟩ :=
    run_reports_every_file mixedStart.plan mixedStart.args false mixedStart.tree
      mixedStart.exclusions
      (fun files path => (mixedStart.treeAt DebugLog.inTurn files path).analyze path)
      (mixedStart.before false) fun files path => FileTree.namesFile_analyze _ path
  rw [← mixedStart.run_eq_carryOut] at houtcome hexit
  have hfiles : mixedStart.tree.collect mixedStart.exclusions mixedStart.args.paths =
      ["a.php", "b.php", "c.php"] := by
    rw [FileTree.collect, Path.sorted_of_pairwise (by decide +kernel)]
    decide +kernel
  rw [hfiles] at houtcome hentries hexit
  refine ⟨hexit.2 ⟨"b.php", by simp, .unreadable "b.php" .invalidText, rfl⟩, _, ?_, houtcome⟩
  rw [hentries]
  rfl

end PhpOutline
