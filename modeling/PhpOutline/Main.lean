import PhpOutline.Command.Run
import Std.Time

/-!
# The command line

Takes a picture of the files that the arguments name, runs the command on it, and prints what the
command leaves behind.
-/

namespace PhpOutline.Disk

/-- The names that lead to a place from the root. -/
def names (absolute : String) : List String := (Path.segments absolute).filter (!·.isEmpty)

/-- The node at a place on disk.  The contents of files that are not PHP are left out. -/
partial def load (entry : IO.FS.DirEntry) : IO Node := do
  if ← entry.path.isDir then
    let entries ← entry.path.readDir
    return .directory (← entries.toList.mapM fun e => do return (e.fileName, ← load e))
  else if Path.extension? entry.fileName == some "php" then
    return .file (← IO.FS.readBinFile entry.path)
  else return .file .empty

/-- Adds a node of the disk, which may be a whole directory. -/
def addDeep (root : Node) (entry : IO.FS.DirEntry) : IO Node := do
  if ← entry.path.isDir then
    return root.set (names (← IO.FS.realPath entry.path).toString) (← load entry)
  else return root

/-- Adds a place of the disk: a directory with no more than is known of it, or a file. -/
def addPlace (root : Node) (entry : IO.FS.DirEntry) : IO Node := do
  if ← entry.path.pathExists then
    let location := names (← IO.FS.realPath entry.path).toString
    if ← entry.path.isDir then
      return if (root.get? location).isSome then root else root.set location (.directory [])
    else return root.set location (.file (← IO.FS.readBinFile entry.path))
  else return root

/-- The paths that lead to the places on the way to a path, and the path itself. -/
def waypoints (path : String) : List String :=
  let segments := Path.segments path
  (List.range segments.length).map fun n => "/".intercalate (segments.take (n + 1))

/-- A picture of the disk that holds all that the arguments name. -/
def picture (a : Arguments) : IO FileTree := do
  let here ← IO.FS.realPath (← IO.currentDir)
  let bare : FileTree := ⟨.directory [], names here.toString⟩
  let root := bare.root.set bare.workingDirectory (.directory [])
  let root ← a.paths.foldlM (fun root path => addDeep root ⟨here, path⟩) root
  let places := a.paths.flatMap waypoints ++ a.config.toList.flatMap waypoints ++
    a.debugLog.toList.flatMap waypoints ++ bare.configPaths
  let root ← (places.filter (!·.isEmpty)).foldlM (fun root path => addPlace root ⟨here, path⟩) root
  return { bare with root }

/-- Writes a debug log. -/
def writeLog (log : DebugLog) : IO Unit :=
  IO.FS.writeFile (FileTree.absolutePath log.location) log.text

/-- An environment variable is set, and not to zero. -/
def isOn (variableName : String) : IO (Option Bool) := do
  return (← IO.getEnv variableName).map (· != "0")

/-- Colours are wanted. -/
def wantsColor : IO Bool := do
  if (← isOn "CLICOLOR_FORCE") == some true then return true
  else if (← isOn "NO_COLOR").isSome then return false
  else return (← isOn "CLICOLOR").getD true && (← (← IO.getStdout).isTty)

/-- Runs the command with the given arguments on the disk. -/
def command (arguments : List String) : IO UInt32 := do
  let tree ← match Arguments.parse arguments with
    | .ok a => picture a
    | .error _ => pure default
  let time := (← Std.Time.PlainDateTime.now).format "uuuu-MM-dd HH:mm:ss.SSS"
  let outcome := run tree (← wantsColor) time arguments
  IO.print outcome.outputText
  IO.eprint outcome.errorText
  outcome.debugLog.forM writeLog
  return outcome.exitCode.toUInt32

end PhpOutline.Disk

/-- Runs the command with the arguments that it was called with. -/
def main (arguments : List String) : IO UInt32 := PhpOutline.Disk.command arguments
