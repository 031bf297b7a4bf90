import PhpOutline.Files.Tree
import PhpOutline.Toml.Read

/-!
# Configuration files

A configuration names the paths to leave out and the format of the report.  Keys that mean nothing
here are passed over, but a value of the wrong type is an error.  Instead of a table, a section may
be an array that gives its values in order, or a date, which gives none.
-/

namespace PhpOutline

/-- The settings of a run. -/
structure Config where
  exclude : List String := []
  format : Option String := none
deriving DecidableEq, Inhabited

namespace Config

open Toml

/-- The name of a configuration file. -/
def fileName : String := ".phpscope.toml"

/-- The item as a text. -/
def textOf (key : String) : Item → Except Fault String
  | .text s => .ok s
  | _ => .error (.wrongType key)

/-- The item as a list of texts. -/
def textsOf (key : String) : Item → Except Fault (List String)
  | .array items => items.mapM (textOf key)
  | _ => .error (.wrongType key)

/-- The only value of a section, by its key or as the first of an array. -/
def valueOf? (sectionKey key : String) : Item → Except Fault (Option Item)
  | .table _ entries => .ok (entries.lookup key)
  | .array items => .ok items.head?
  | .tables elements => .ok (elements.head?.map (.table .header))
  | .moment _ => .ok none
  | _ => .error (.wrongType sectionKey)

/-- The value of a section of a document, if the section and the value are there. -/
def setting? (entries : Entries) (sectionKey key : String) : Except Fault (Option Item) :=
  match entries.lookup sectionKey with
  | none => .ok none
  | some item => valueOf? sectionKey key item

/-- Reads the text of a configuration file. -/
def parse (text : String) : Except Fault Config := do
  let entries ← Toml.parse text
  let exclude ← (← setting? entries "paths" "exclude").mapM (textsOf "exclude")
  let format ← (← setting? entries "output" "format").mapM (textOf "format")
  return { exclude := exclude.getD [], format }

end Config

/-- Why there is no configuration. -/
inductive ConfigError
  | unreadable (path : String) (cause : ReadError)
  | invalid (path : String) (cause : Toml.Fault)
deriving DecidableEq

/-- The wording of the error. -/
def ConfigError.message : ConfigError → String
  | unreadable path cause => s!"Failed to read {path}: {cause.message}"
  | invalid path cause => s!"Failed to parse {path}: {cause.message}"

namespace FileTree

/-- Reads the configuration file that a path leads to. -/
def readConfig (t : FileTree) (path : String) : Except ConfigError Config :=
  match t.read path with
  | .error e => .error (.unreadable path e)
  | .ok text =>
    match Config.parse text with
    | .error e => .error (.invalid path e)
    | .ok config => .ok config

/-- The paths under which a configuration file is looked for: in the working directory and in the
directories around it, the nearest first. -/
def configPaths (t : FileTree) : List String :=
  (List.range (t.workingDirectory.length + 1)).reverse.map fun depth =>
    Path.join (absolutePath (t.workingDirectory.take depth)) Config.fileName

/-- The first path under which there is a configuration file. -/
def configPath? (t : FileTree) : Option String := t.configPaths.find? t.pathExists

end FileTree

end PhpOutline
