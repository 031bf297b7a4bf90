/-!
# Arguments of the command line

Arguments are read from left to right, and the first that cannot be read decides.  Each option may
be given once.
-/

namespace PhpOutline

/-- What the arguments ask for. -/
structure Arguments where
  paths : List String := []
  format : Option String := none
  json : Bool := false
  config : Option String := none
  noConfig : Bool := false
  debugLog : Option String := none
  verbose : Bool := false
deriving DecidableEq, Inhabited

/-- An option without a value. -/
inductive Flag
  | json | noConfig | verbose | help | version
deriving DecidableEq, Inhabited

/-- An option with a value. -/
inductive Setting
  | format | config | debugLog
deriving DecidableEq, Inhabited

namespace Flag

/-- The flag with a long name. -/
def ofName? : String → Option Flag
  | "json" => some json
  | "no-config" => some noConfig
  | "verbose" => some verbose
  | "help" => some help
  | "version" => some version
  | _ => none

/-- The flag with a letter. -/
def ofLetter? : Char → Option Flag
  | 'v' => some verbose
  | 'h' => some help
  | 'V' => some version
  | _ => none

/-- The spelling of a flag. -/
def spelling : Flag → String
  | json => "--json"
  | noConfig => "--no-config"
  | verbose => "--verbose"
  | help => "--help"
  | version => "--version"

end Flag

namespace Setting

/-- The setting with a name. -/
def ofName? : String → Option Setting
  | "format" => some format
  | "config" => some config
  | "debug-log" => some debugLog
  | _ => none

/-- The spelling of a setting. -/
def spelling : Setting → String
  | format => "--format <FORMAT>"
  | config => "--config <PATH>"
  | debugLog => "--debug-log <PATH>"

end Setting

/-- Arguments that make no sense. -/
inductive UsageError
  | unknown (argument : String)
  | missingValue (option : String)
  | unexpectedValue (option value : String)
  | repeated (option : String)
  | conflict (first second : String)
  | noPath
deriving DecidableEq

/-- The wording of the error. -/
def UsageError.message : UsageError → String
  | unknown argument => s!"unexpected argument '{argument}' found"
  | missingValue option => s!"a value is required for '{option}' but none was supplied"
  | unexpectedValue option value =>
    s!"unexpected value '{value}' for '{option}' found; no more were expected"
  | repeated option => s!"the argument '{option}' cannot be used multiple times"
  | conflict first second => s!"the argument '{first}' cannot be used with '{second}'"
  | noPath => "the following required arguments were not provided:\n  <PATHS>..."

/-- Why the arguments ask for no analysis. -/
inductive Stop
  | help
  | version
  | misuse (error : UsageError)
deriving DecidableEq

namespace Arguments

/-- Adds a path, which may not be empty. -/
def addPath (a : Arguments) (path : String) : Except Stop Arguments :=
  if path.isEmpty then .error (.misuse (.missingValue "<PATHS>..."))
  else .ok { a with paths := a.paths ++ [path] }

/-- Adds paths. -/
def addPaths (a : Arguments) (paths : List String) : Except Stop Arguments :=
  paths.foldlM addPath a

/-- Raises a flag that is still down. -/
def raise (a : Arguments) (flag : Flag) : Except Stop Arguments :=
  let once (isUp : Bool) (raised : Arguments) : Except Stop Arguments :=
    if isUp then .error (.misuse (.repeated flag.spelling)) else .ok raised
  match flag with
  | .json => once a.json { a with json := true }
  | .noConfig => once a.noConfig { a with noConfig := true }
  | .verbose => once a.verbose { a with verbose := true }
  | .help => .error .help
  | .version => .error .version

/-- Gives a setting its value.  A path may not be empty. -/
def assign (a : Arguments) (setting : Setting) (value : String) : Except Stop Arguments :=
  let once (isPath : Bool) (old : Option String) (assigned : Arguments) : Except Stop Arguments :=
    if old.isSome then .error (.misuse (.repeated setting.spelling))
    else if isPath && value.isEmpty then .error (.misuse (.missingValue setting.spelling))
    else .ok assigned
  match setting with
  | .format => once false a.format { a with format := some value }
  | .config => once true a.config { a with config := some value }
  | .debugLog => once true a.debugLog { a with debugLog := some value }

/-- Raises the flags of several letters behind one dash. -/
def raiseLetters (a : Arguments) (letters : List Char) : Except Stop Arguments :=
  letters.foldlM (fun a letter =>
    match Flag.ofLetter? letter with
    | some flag => a.raise flag
    | none => .error (.misuse (.unknown (String.ofList ['-', letter])))) a

/-- What an argument is by its spelling. -/
inductive Shape
  | divider
  | long (name : String) (value : Option String)
  | letters (letters : List Char)
  | plain

/-- The shape of an argument.  A dash alone is a plain argument. -/
def shape (argument : String) : Shape :=
  match argument.toList with
  | ['-', '-'] => .divider
  | '-' :: '-' :: cs =>
    match cs.dropWhile (· != '=') with
    | [] => .long (String.ofList cs) none
    | _ :: value => .long (String.ofList (cs.takeWhile (· != '='))) (some (String.ofList value))
  | '-' :: c :: cs => .letters (c :: cs)
  | _ => .plain

/-- An argument can be the value of the option before it. -/
def isValue (argument : String) : Bool := shape argument matches .plain

/-- Reads arguments one by one; behind a divider there are only paths. -/
def scan (a : Arguments) : List String → Except Stop Arguments
  | [] => .ok a
  | argument :: rest =>
    match shape argument with
    | .divider => a.addPaths rest
    | .plain => do (← a.addPath argument).scan rest
    | .letters letters => do (← a.raiseLetters letters).scan rest
    | .long name attached =>
      match Flag.ofName? name, Setting.ofName? name, attached with
      | some flag, _, none => do (← a.raise flag).scan rest
      | some flag, _, some value => .error (.misuse (.unexpectedValue flag.spelling value))
      | none, some setting, some value => do (← a.assign setting value).scan rest
      | none, some setting, none =>
        match rest with
        | [] => .error (.misuse (.missingValue setting.spelling))
        | value :: rest =>
          if isValue value then do (← a.assign setting value).scan rest
          else .error (.misuse (.missingValue setting.spelling))
      | none, none, _ => .error (.misuse (.unknown ("--" ++ name)))

/-- Checks what only all arguments together show. -/
def check (a : Arguments) : Except Stop Arguments :=
  if a.json && a.format.isSome then
    .error (.misuse (.conflict Flag.json.spelling Setting.format.spelling))
  else if a.config.isSome && a.noConfig then
    .error (.misuse (.conflict Setting.config.spelling Flag.noConfig.spelling))
  else if a.paths.isEmpty then .error (.misuse .noPath)
  else .ok a

/-- Reads the arguments of a run. -/
def parse (arguments : List String) : Except Stop Arguments := do (← scan {} arguments).check

end Arguments

end PhpOutline
