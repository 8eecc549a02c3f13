import EventRelay.Dedup.Sha256
import EventRelay.Http.Client
import EventRelay.Launch.Basic
import EventRelay.Service.Guard

/-!
# The command line

Loads the settings, announces the instance and takes in events from standard input, one payload a
line, until the input ends. Each line is answered by the status and the body of its response.
-/

namespace EventRelay.CommandLine

/-- A variable from its text. -/
def assignment (text : String) : Option (String × String) :=
  let name := text.toList.takeWhile (· ≠ '=')
  if name.length = text.length then none
  else some (String.ofList name, String.ofList (text.toList.drop (name.length + 1)))

/-- The variables of the process. -/
def readVariables : IO Environment := do
  let bytes ← IO.FS.readBinFile "/proc/self/environ"
  let texts := Text.splitString '\x00' (Text.decodeReplacing bytes.toList)
  return .ofSettings (texts.filterMap assignment)

/-- The file or directory that a path leads to. -/
def readFiles (path : String) : IO FileTree := do
  try
    return FileTree.empty.put path (.file (← IO.FS.readBinFile path))
  catch
    | .inappropriateType .. => return FileTree.empty.put path .directory
    | _ => return .empty

/-- Random bits without end, from a few. -/
def bitsFrom (seed : ByteArray) (n : Nat) : Nat :=
  let digest := Sha256.digest (seed ++ (toString n).toUTF8)
  digest.toList.foldl (fun acc c => 16 * acc + (Text.Hex.digitValue? c).getD 0) 0

/-- An event as a request. -/
def eventRequest (payload : String) : Http.Request :=
  ⟨"POST", Service.eventsRoute, "", .ofTexts [("content-type", "application/json")],
    payload.toUTF8, none⟩

/-- The line that answers an event. -/
def answerLine : Outcome Http.Response → String
  | .returned response =>
    toString response.status ++ " " ++ Text.decodeReplacing response.body.toList
  | .panicked payload => "500 " ++ payload.message
  | .hung => "408"

/-- Takes in events until the input ends; the clock of the realm is set forward before each. -/
partial def takeEvents (service : Service (Array ClientEvent)) (input : IO.FS.Stream)
    (last : Nat) (r : Realm (Array ClientEvent)) : IO Unit := do
  let line ← input.getLine
  if line.isEmpty then return
  let now ← IO.monoNanosNow
  let payload := String.ofList (line.toList.filter (· ≠ '\n'))
  let (outcome, r) := service.serve none (eventRequest payload) (r.advance (.ofNanos (now - last)))
  IO.println (answerLine outcome)
  takeEvents service input now r

/-- Writes records to the console. -/
def announce (launch : Launch) (records : List ConsoleRecord) : IO Unit :=
  for line in launch.shown "main" records do
    IO.println line

end EventRelay.CommandLine

open EventRelay EventRelay.CommandLine

/-- Runs the instance. -/
def main : IO UInt32 := do
  let environment ← readVariables
  let blank : Launch := ⟨environment, .empty, some .terminate⟩
  let launch := { blank with files := ← readFiles blank.configPath }
  match launch.settings with
  | .error error =>
    IO.println error.jsonLine
    announce launch [Launch.loadFailure error]
    return 1
  | .ok settings =>
    announce launch (launch.opening settings)
    let start ← IO.monoNanosNow
    let seed ← IO.getRandomBytes 16
    let (root, r) := (Realm.start (.startingAt start) (bitsFrom seed) (fun _ => "no trace")
      (#[] : Array ClientEvent)).addRoot .console
    let (home, r) := Instance.onRoot r root settings launch.environmentName
    let r := home.observe (.tracing .shared) r
    let r := r.setHandle root Key.httpTransport .transport
    let service := Service.of home HttpClient.send
    takeEvents service (← IO.getStdin) start (service.opened r)
    announce launch (Launch.closing settings .terminate)
    return 0
