import PhpOutline.Command.Arguments
import PhpOutline.Config
import PhpOutline.DebugLog
import PhpOutline.Report.Document
import PhpOutline.Report.Text

/-!
# Running a command

A command looks at a file tree and has an outcome: lines for the two output streams, an exit code
and, if it was asked for, a debug log.  What was printed and recorded before a failure stays.
-/

namespace PhpOutline

/-- How a report is presented. -/
inductive Format
  | text | json
deriving DecidableEq, Inhabited

/-- The format with a name in any letter case. -/
def Format.ofName? (name : String) : Option Format :=
  if Text.eqIgnoringCase name "text" then some text
  else if Text.eqIgnoringCase name "json" then some json
  else none

/-- Why a command fails. -/
inductive CommandError
  | debugLog (path : String) (cause : ReadError)
  | config (cause : ConfigError)
  | format (name : String)
  | pattern (cause : InvalidPattern)
deriving DecidableEq

/-- The wording of the error. -/
def CommandError.message : CommandError → String
  | debugLog path cause => s!"Failed to open debug log {path}: {cause.message}"
  | config cause => cause.message
  | format name => s!"Invalid output format '{name}'. Valid options: text, json"
  | pattern cause => cause.message

/-- What a command leaves behind. -/
structure Outcome where
  exitCode : Nat := 0
  /-- The lines of the report. -/
  output : List String := []
  /-- The lines of warnings and errors. -/
  errors : List String := []
  debugLog : Option DebugLog := none

namespace Outcome

/-- The text on the standard output. -/
def outputText (o : Outcome) : String := String.join (o.output.map (· ++ "\n"))

/-- The text on the standard error stream. -/
def errorText (o : Outcome) : String := String.join (o.errors.map (· ++ "\n"))

/-- The tree after the command. -/
def treeAfter (o : Outcome) (t : FileTree) : FileTree := o.debugLog.elim t (·.writeTo t)

/-- The outcome with a failure at its end. -/
def fail (o : Outcome) (color : Bool) (e : CommandError) : Outcome :=
  { o with
    exitCode := 1
    errors := o.errors ++ [Style.red.paint color "Error" ++ ": " ++ e.message] }

/-- The outcome with more events recorded, if there is a log. -/
def record (o : Outcome) (events : List Event) : Outcome :=
  { o with debugLog := o.debugLog.map (·.record events) }

/-- What comes of each of the files of a survey.  The log among them is read as the schedule
says. -/
def resultOf (o : Outcome) (t : FileTree) (schedule : DebugLog.Schedule) (files : List String) :
    String → Except FileError Analysis :=
  match o.debugLog with
  | none => t.analyze
  | some log =>
    let log := log.record [.started files.length]
    log.analyze t (schedule t log files)

end Outcome

/-- What arguments and configuration settle before the analysis. -/
structure Plan where
  format : Format
  config : Config
  configPath : Option String

namespace Arguments

/-- The empty debug log, if one is asked for. -/
def openLog (a : Arguments) (t : FileTree) (time : String) :
    Except CommandError (Option DebugLog) :=
  match a.debugLog with
  | none => .ok none
  | some path =>
    match t.writable path with
    | .error e => .error (.debugLog path e)
    | .ok location => .ok (some { location, time })

/-- The path of the configuration file: the one that is given, or the nearest. -/
def configPath? (a : Arguments) (t : FileTree) : Option String :=
  if a.noConfig then none else a.config <|> t.configPath?

/-- The format that the arguments or else the configuration ask for. -/
def chooseFormat (a : Arguments) (config : Config) : Except CommandError Format :=
  if a.json then .ok .json
  else
    match a.format <|> config.format with
    | none => .ok .text
    | some name =>
      match Format.ofName? name with
      | some format => .ok format
      | none => .error (.format name)

/-- Reads the configuration and settles the format. -/
def plan (a : Arguments) (t : FileTree) : Except CommandError Plan := do
  let configPath := a.configPath? t
  let config ← match configPath with
    | none => .ok {}
    | some path => (t.readConfig path).mapError .config
  return { format := ← a.chooseFormat config, config, configPath }

/-- How a report in text is written. -/
def textOptions (a : Arguments) (color : Bool) : TextOptions := { color, verbose := a.verbose }

end Arguments

namespace Plan

/-- The lines in front of a report: the files that take part in the run. -/
def greeting (p : Plan) (a : Arguments) (color : Bool) : List String :=
  let line (label path : String) : String := Style.bold.paint color label ++ ": " ++ path
  if a.verbose && p.format == .text then
    p.configPath.toList.map (line "Using config") ++ a.debugLog.toList.map (line "Debug log")
  else []

/-- What is recorded about the configuration. -/
def events (p : Plan) : List Event :=
  p.configPath.toList.map (.configured · p.config.exclude.length)

/-- The outcome of an analysis, added to what the command has left behind so far. -/
def report (p : Plan) (a : Arguments) (color : Bool) (missing : List String) (survey : Survey)
    (before : Outcome) : Outcome :=
  let entries := survey.entries
  let summary := Summary.ofEntries entries
  let o := a.textOptions color
  let after := { before.record survey.events with exitCode := if summary.errors > 0 then 1 else 0 }
  match p.format with
  | .json =>
    { after with output := after.output ++ [(reportDocument summary entries).pretty 0] }
  | .text =>
    { after with
      output := after.output ++ entries.flatMap (·.textLines o) ++ summary.textLines o
      errors :=
        after.errors ++ missing.map (fun path => warning o s!"Path does not exist: {path}") ++
          entries.flatMap (·.warnings o) }

/-- Surveys the files that the arguments stand for and reports on them.  `resultOf` tells what comes
of each of the surveyed files. -/
def carryOut (p : Plan) (a : Arguments) (color : Bool) (t : FileTree) (exclusions : List Exclusion)
    (resultOf : List String → String → Except FileError Analysis) (before : Outcome) : Outcome :=
  let (existing, missing) := a.paths.partition t.pathExists
  let files := t.collect exclusions existing
  p.report a color missing (.ofFiles files (resultOf files)) before

end Plan

/-- Runs a command whose arguments make sense. -/
def Arguments.run (a : Arguments) (t : FileTree) (color : Bool) (time : String)
    (schedule : DebugLog.Schedule) : Outcome :=
  match a.openLog t time with
  | .error e => ({} : Outcome).fail color e
  | .ok debugLog =>
    let before : Outcome := { debugLog }
    -- Opening the log empties it, and the log may be a file that the command looks at.
    let t := before.treeAfter t
    match a.plan t with
    | .error e => before.fail color e
    | .ok plan =>
      let before := { before with output := plan.greeting a color }.record plan.events
      match Exclusion.parseAll plan.config.exclude with
      | .error e => before.fail color (.pattern e)
      | .ok exclusions => plan.carryOut a color t exclusions (before.resultOf t schedule) before

/-! ### Help -/

/-- The name of the command. -/
def commandName : String := "phpscope"

/-- How the command is called. -/
def usage : String := s!"Usage: {commandName} [OPTIONS] <PATHS>..."

/-- The lines of the help. -/
def helpLines : List String :=
  ["Structural analysis of PHP source files", "", usage, "",
    "Arguments:",
    "  <PATHS>...  Files or directories to analyze", "",
    "Options:",
    "      --format <FORMAT>   Output format: text, json",
    "      --json              Shorthand for --format json",
    "      --config <PATH>     Path to config file (default: auto-detect .phpscope.toml)",
    "      --no-config         Ignore config files",
    "      --debug-log <PATH>  Write a debug log of the analysis to PATH",
    "  -v, --verbose           Show verbose output",
    "  -h, --help              Print help",
    "  -V, --version           Print version"]

/-- Runs a command at the given time. -/
def run (t : FileTree) (color : Bool) (time : String) (arguments : List String)
    (schedule : DebugLog.Schedule := DebugLog.inTurn) : Outcome :=
  match Arguments.parse arguments with
  | .ok a => a.run t color time schedule
  | .error .help => { output := helpLines }
  | .error .version => { output := [s!"{commandName} {version}"] }
  | .error (.misuse e) =>
    { exitCode := 2
      errors := ["error: " ++ e.message, "", usage, "", "For more information, try '--help'."] }

end PhpOutline
