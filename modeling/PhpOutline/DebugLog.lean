import PhpOutline.Survey

/-!
# Debug logs

A debug log is a file of the tree that grows while a command runs.  A survey may come across it
like any other file, and then reads what has been recorded up to that moment.

The files of a survey may be analyzed at the same time, so that it is up to chance how much of the
others has been recorded when a file is read.  A schedule (`DebugLog.Schedule`) settles this.
-/

namespace PhpOutline

/-- A debug log: its place in the tree, the time that its messages carry, and what is recorded in
it. -/
structure DebugLog where
  location : List String
  time : String
  events : List Event := []

namespace DebugLog

/-- The text of a log: every message behind the time, on a line of its own. -/
def text (log : DebugLog) : String :=
  String.join ((log.events.flatMap Event.messages).map fun message => s!"[{log.time}] {message}\n")

/-- The log with more events recorded. -/
def record (log : DebugLog) (events : List Event) : DebugLog :=
  { log with events := log.events ++ events }

/-- The tree with the log written; what was there before is gone. -/
def writeTo (log : DebugLog) (t : FileTree) : FileTree := t.write log.location log.text

/-- The path leads to the log. -/
def isAt (log : DebugLog) (t : FileTree) (path : String) : Bool :=
  (t.locate path (Path.segments path)).toOption == some log.location

/-- Analyzes the file that a path leads to.  If it is the log, then what has been recorded until it
is read, `seen path`, is read as well. -/
def analyze (log : DebugLog) (t : FileTree) (seen : String → List Event) (path : String) :
    Except FileError Analysis :=
  if log.isAt t path then ((log.record (seen path)).writeTo t).analyze path else t.analyze path

/-- What is recorded when a file has been analyzed.  An error is recorded only at the end of a
survey. -/
def eventsOf : Except FileError Analysis → List Event
  | .ok analysis => analysis.events
  | .error _ => []

/-- Tells what has been recorded of the files of a survey by the time that one of them is read. -/
abbrev Schedule := FileTree → DebugLog → List String → String → List Event

/-- The schedule of a survey that analyzes its files one after the other. -/
def inTurn : Schedule
  | _, _, [], _ => []
  | t, log, path :: paths, file =>
    if file = path then []
    else
      let events := eventsOf (log.analyze t (fun _ => []) path)
      events ++ inTurn t (log.record events) paths file

end DebugLog

end PhpOutline
