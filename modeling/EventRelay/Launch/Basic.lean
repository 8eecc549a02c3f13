import EventRelay.Launch.Filter
import EventRelay.Dedup.Cache
import EventRelay.Settings.Load

/-!
# Starting and stopping

The process loads its settings, or ends with the reason why it cannot; it announces itself, binds
its port, or ends with the reason why it cannot; and it serves until it is told to stop.

* `Launch.settings`: the settings under the variables of the process.
* `Launch.report`: what the process writes and how it ends.
-/

namespace EventRelay

/-- Who tells the process to stop. -/
inductive StopSignal where
  | interrupt
  | terminate
  deriving DecidableEq, Repr

/-- The name of a signal in the report of a stop. -/
def StopSignal.name : StopSignal → String
  | .interrupt => "CTRL+C"
  | .terminate => "SIGTERM"

/-- What a process starts from: its variables, the files, and the signal that stops it; without a
signal its port is taken. -/
structure Launch where
  environment : Environment
  files : FileTree
  stop : Option StopSignal

/-- What a process wrote and how it ended. -/
structure LaunchReport where
  status : Nat
  output : List String
  errors : List String
  deriving DecidableEq, Repr

/-- A port that is taken. -/
def portTaken : FileError := .numbered 98

namespace Launch

/-- Where the settings are when no variable says so. -/
def defaultPath : String := "config-eel/config.json"

/-- Where the settings are. -/
def configPath (l : Launch) : String := (l.environment.get? "EEL_CONFIG_PATH").getD defaultPath

/-- The name of the environment in which the instance is deployed. -/
def environmentName (l : Launch) : String := (l.environment.get? "EEL_ENV").getD ""

/-- The format of the console. -/
def format (l : Launch) : ConsoleFormat :=
  if l.environment.get? "EEL_LOG_FORMAT" = some "json" then .json else .people

/-- What the console shows when no variable says so, or one that cannot be read. -/
def defaultFilter : ConsoleFilter :=
  ⟨[⟨none, none, none, false, .info⟩, ⟨some "eel", none, none, false, .debug⟩,
    ⟨some "tower_http", none, none, false, .debug⟩]⟩

/-- What the console shows. -/
def filter (l : Launch) : ConsoleFilter :=
  ((l.environment.get? "RUST_LOG").bind ConsoleFilter.parse?).getD defaultFilter

/-- The lines that the console shows of records. -/
def shown (thread : String) (l : Launch) (records : List ConsoleRecord) : List String :=
  (records.filter l.filter.shows).map (l.format.render thread)

/-- The settings under the variables of the process. -/
def settings (l : Launch) : Except LoadError Settings :=
  Settings.load l.configPath l.files l.environment

/-- The report that settings cannot be loaded. -/
def loadFailure (error : LoadError) : ConsoleRecord :=
  ⟨.error, "eel", "failed to load settings", [("error", .shown error.message),
    ("error_type", .quoted error.errorType), ("cause", .quoted error.cause)]⟩

/-- The announcement of an instance. -/
def announcement (l : Launch) (s : Settings) : ConsoleRecord :=
  ⟨.info, "eel", "Starting eel event dispatcher", [("name", .shown s.name),
    ("version", .shown s.version), ("env", .shown l.environmentName),
    ("config", .shown l.configPath)]⟩

/-- The report whether duplicates are suppressed. -/
def suppression (s : Settings) : ConsoleRecord :=
  match DuplicateWindow.ofSettings s with
  | some window => ⟨.info, "eel", "duplicate suppression enabled",
      [("ttl", .shown window.length.text), ("capacity", .count window.capacity.toNat)]⟩
  | none => ⟨.info, "eel", "duplicate suppression disabled", []⟩

/-- A report of the server. -/
def serverRecord (level : LogLevel) (message : String) : ConsoleRecord :=
  ⟨level, "eel_api::server", message, []⟩

/-- The address that the server binds. -/
def address (s : Settings) : String := "0.0.0.0:" ++ toString s.listenPort.toNat

/-- What is reported before the port is bound. -/
def opening (l : Launch) (s : Settings) : List ConsoleRecord :=
  [l.announcement s, suppression s, serverRecord .info ("Starting HTTP server on " ++ address s)]

/-- What is reported from then on until the process ends on a signal. -/
def closing (s : Settings) (signal : StopSignal) : List ConsoleRecord :=
  [serverRecord .info ("HTTP server listening on " ++ address s),
    serverRecord .info ("Received " ++ signal.name ++ ", starting graceful shutdown"),
    serverRecord .warn "Waiting for in-flight requests to complete",
    serverRecord .info "HTTP server stopped gracefully",
    ⟨.info, "eel", "eel shutdown complete", []⟩]

/-- What a process that cannot bind its port says at its end. -/
def bindFailure : List String :=
  ["Error: HTTP server failed", "", "Caused by:", "    " ++ portTaken.message]

/-- What a process writes and how it ends. -/
def report (thread : String) (l : Launch) : LaunchReport :=
  match l.settings with
  | .error error => ⟨1, error.jsonLine :: l.shown thread [loadFailure error], []⟩
  | .ok s =>
    match l.stop with
    | none => ⟨1, l.shown thread (l.opening s), bindFailure⟩
    | some signal => ⟨0, l.shown thread (l.opening s ++ closing s signal), []⟩

/-- A process ends well only if its settings load and its port is free. -/
theorem status_report_eq_zero_iff (thread : String) (l : Launch) :
    (l.report thread).status = 0 ↔ (∃ s, l.settings = .ok s) ∧ l.stop.isSome := by
  unfold report
  split
  · next h => simp [h]
  · next s h =>
    split
    · next hs => simp [hs]
    · next hs => simp [h, hs]

end Launch
end EventRelay
