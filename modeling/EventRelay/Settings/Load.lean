import EventRelay.Settings.FileTree
import EventRelay.Settings.Overlay
import EventRelay.Text.Utf8

/-!
# Loading the settings

A file is opened, read as text and parsed under the environment. Each stage has its own failure,
and each failure has one line of JSON that is printed before the process ends.

* `Settings.load`: the settings of a file under an environment.
* `LoadError.message`, `LoadError.cause`, `LoadError.jsonLine`: a failure in words.
-/

namespace EventRelay

/-- Why settings could not be loaded. -/
inductive LoadError where
  | opening (path : String) (error : FileError)
  | reading (path : String) (error : FileError)
  | parsing (path : String) (message : String)
  deriving DecidableEq, Repr

namespace LoadError

/-- The failure in words. -/
def message : LoadError → String
  | .opening path error => "failed to open config " ++ path ++ ": " ++ error.message
  | .reading path error => "failed to read config " ++ path ++ ": " ++ error.message
  | .parsing path message => "failed to parse config " ++ path ++ ": " ++ message

/-- The stage that failed. -/
def cause : LoadError → String
  | .opening _ _ => "open_config"
  | .reading _ _ => "read_config"
  | .parsing _ _ => "parse_config"

/-- The family of the failure. -/
def errorType (_ : LoadError) : String := "get_config"

/-- The failure of the file system behind it. -/
def source? : LoadError → Option FileError
  | .opening _ error | .reading _ error => some error
  | .parsing _ _ => none

/-- The failure as an object. -/
def toJson (e : LoadError) : Json :=
  .ofMembers [("error", .str e.message), ("error_type", .str e.errorType), ("cause", .str e.cause)]

/-- The failure as one line of JSON. -/
def jsonLine (e : LoadError) : String := e.toJson.render

end LoadError

/-- The text of the file that a path leads to, or why it cannot be opened or read. -/
def FileTree.read (files : FileTree) (path : String) : Except LoadError String :=
  match files.open? path with
  | .error error => .error (.opening path error)
  | .ok .directory => .error (.reading path .isDirectory)
  | .ok (.file content) =>
    match Text.decode? content with
    | some text => .ok text
    | none => .error (.reading path .notText)

/-- The settings of a file under an environment. -/
def Settings.load (path : String) (files : FileTree) (env : Environment) :
    Except LoadError Settings := do
  let text ← files.read path
  (Settings.ofSources text env).mapError (fun e => .parsing path e.message)

end EventRelay
