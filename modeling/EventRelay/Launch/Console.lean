import EventRelay.Json.Printer
import EventRelay.Log
import EventRelay.Text.Number
import EventRelay.Text.Quoted
import EventRelay.Time.Duration

/-!
# The console

What the process reports of itself, beside what contexts log: lines for people or lines of JSON.

* `ConsoleRecord.line`: a record for people.
* `ConsoleRecord.jsonLine`: a record as JSON, without the time.
* `ConsoleFormat.render`: a record in the format in force.
-/

namespace EventRelay

/-- The value of a field: a text shown as it is, a text shown in quotes, or a number. -/
inductive ConsoleValue where
  | shown (s : String)
  | quoted (s : String)
  | count (n : Nat)
  deriving DecidableEq, Repr

namespace ConsoleValue

/-- A value for people. -/
def text : ConsoleValue → String
  | .shown s => s
  | .quoted s => Text.quote s
  | .count n => toString n

/-- A value as JSON. -/
def toJson : ConsoleValue → Json
  | .shown s | .quoted s => .str s
  | .count n => .ofNat n

end ConsoleValue

/-- A record: its level, the part of the process that speaks, a message and fields. -/
structure ConsoleRecord where
  level : LogLevel
  target : String
  message : String
  fields : List (String × ConsoleValue)
  deriving DecidableEq, Repr

namespace ConsoleRecord

/-- The name of the level in capitals. -/
def levelName (record : ConsoleRecord) : String := Text.asciiUpper record.level.name

/-- A record for people, `thread` being the thread that speaks. -/
def line (thread : String) (record : ConsoleRecord) : String :=
  record.levelName ++ " " ++ thread ++ " " ++ record.target ++ ": " ++ record.message ++
    String.join (record.fields.map (fun f => " " ++ f.1 ++ "=" ++ f.2.text))

/-- A record as JSON, the message among the fields. -/
def toJson (record : ConsoleRecord) : Json :=
  .ofMembers [("level", .str record.levelName), ("target", .str record.target),
    ("fields", .ofMembers (("message", .str record.message) ::
      record.fields.map (fun f => (f.1, f.2.toJson))))]

/-- A record as one line of JSON. -/
def jsonLine (record : ConsoleRecord) : String := record.toJson.render

end ConsoleRecord

/-- How the console shows records. -/
inductive ConsoleFormat where
  | people
  | json
  deriving DecidableEq, Repr

/-- The line of a record. -/
def ConsoleFormat.render (thread : String) (format : ConsoleFormat) (record : ConsoleRecord) :
    String :=
  match format with
  | .people => record.line thread
  | .json => record.jsonLine

end EventRelay
