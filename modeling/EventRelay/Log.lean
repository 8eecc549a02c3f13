import EventRelay.Json.FlatText

/-!
# Log records

A record has a level, a message and a table of fields.

* `LogLevel.rank`: the order of the levels.
* `LogRecord.field?`: a field as text.
-/

namespace EventRelay

/-- How grave a record is. -/
inductive LogLevel where
  | debug
  | info
  | warn
  | error
  deriving DecidableEq, Repr

namespace LogLevel

/-- The name of a level. -/
def name : LogLevel → String
  | .debug => "debug"
  | .info => "info"
  | .warn => "warn"
  | .error => "error"

/-- Graver levels rank higher. -/
def rank : LogLevel → Nat
  | .debug => 0
  | .info => 1
  | .warn => 2
  | .error => 3

/-- The order of two levels. -/
def compare (a b : LogLevel) : Ordering := Ord.compare a.rank b.rank

end LogLevel

/-- One record. -/
structure LogRecord where
  level : LogLevel
  message : String
  fields : Entries Json
  deriving DecidableEq

/-- A field as text: a string as it is, anything else as JSON. -/
def LogRecord.field? (record : LogRecord) (name : String) : Option String :=
  (Entries.find? name record.fields).map Json.fieldText

/-- Fields that are all texts. -/
def textFields (pairs : List (String × String)) : Entries Json :=
  Entries.ofList (pairs.map (fun p => (p.1, .str p.2)))

/-- Where the records of a context go: kept in memory, or written to the console. -/
inductive Sink where
  | kept
  | console
  deriving DecidableEq, Repr

end EventRelay
