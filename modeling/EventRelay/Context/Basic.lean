import EventRelay.Context.Key
import EventRelay.Log
import EventRelay.Settings.Basic
import EventRelay.Text.Quoted

/-!
# Contexts

A context is what a piece of work carries with it: a correlation id, three bags of values, whether
it logs, and whether it was abandoned. A context derived from another starts as a copy of it and
goes its own way from then on.

* `Context.setId` also writes the id among the log values.
* `Context.derived`: what a derived context starts as.
* `Context.text`: a context for people.
-/

namespace EventRelay

/-- Which clock an observer or a retry reads: the one that its owner moves, or the machine's. -/
inductive TimeSource where
  | shared
  | system
  deriving DecidableEq, Repr

/-- Who is told about spans and metrics: nobody, or the log of the context. -/
inductive Observer where
  | inert
  | tracing (time : TimeSource)
  deriving DecidableEq, Repr

/-- A long-lived thing that contexts share. The transport and the duplicate checker of a process
are one of a kind, so that holding one is to know of it. -/
inductive Handle where
  | settings (s : Settings)
  | transport
  | checker
  | observer (o : Observer)
  | word32 (n : UInt32)
  | int64 (i : Int64)
  | flag (b : Bool)
  | text (s : String)
  deriving DecidableEq

/-- A context. `lineage` lists the contexts that it was derived from, the nearest first. -/
structure Context where
  id : String
  values : Entries Json
  logValues : Entries Json
  handles : Entries Handle
  logging : Bool
  sink : Sink
  lineage : List Nat
  cancelled : Bool
  deriving DecidableEq

namespace Context

/-- A context derived from no other. -/
def root (sink : Sink) : Context := ⟨"", [], [], [], true, sink, [], false⟩

instance : Inhabited Context := ⟨root .console⟩

/-- Sets the correlation id, and writes it among the log values. -/
def setId (id : String) (c : Context) : Context :=
  { c with id := id, logValues := c.logValues.insert Key.traceId (.str id) }

/-- Writes a value. -/
def setValue (name : String) (value : Json) (c : Context) : Context :=
  { c with values := c.values.insert name value }

/-- Writes a log value. -/
def setLogValue (name : String) (value : Json) (c : Context) : Context :=
  { c with logValues := c.logValues.insert name value }

/-- Writes a handle. -/
def setHandle (name : String) (handle : Handle) (c : Context) : Context :=
  { c with handles := c.handles.insert name handle }

/-- Switches logging on or off. -/
def setLogging (enabled : Bool) (c : Context) : Context := { c with logging := enabled }

/-- Abandons the work. -/
def cancel (c : Context) : Context := { c with cancelled := true }

/-- The value of a name. -/
def value? (name : String) (c : Context) : Option Json := Entries.find? name c.values

/-- The value of a name that is a string. -/
def text? (name : String) (c : Context) : Option String := (c.value? name).bind Json.text?

/-- The log value of a name. -/
def logValue? (name : String) (c : Context) : Option Json := Entries.find? name c.logValues

/-- The handle of a name. -/
def handle? (name : String) (c : Context) : Option Handle := Entries.find? name c.handles

/-- The settings that are registered. -/
def settings? (c : Context) : Option Settings :=
  match c.handle? Key.settings with
  | some (.settings s) => some s
  | _ => none

/-- The observer that is registered; an inert one when there is none. -/
def observer (c : Context) : Observer :=
  match c.handle? Key.observer with
  | some (.observer o) => o
  | _ => .inert

/-- Whether a transport is registered. -/
def hasTransport (c : Context) : Bool := c.handle? Key.httpTransport == some .transport

/-- Whether a duplicate checker is registered. -/
def hasChecker (c : Context) : Bool := c.handle? Key.duplicateChecker == some .checker

/-- What a context derived from the one at place `parent` starts as, `fresh` being its id when the
other has none. -/
def derived (parent : Nat) (fresh : String) (c : Context) : Context :=
  { c.setId (if c.id.isEmpty then fresh else c.id) with lineage := parent :: c.lineage }

/-! ## What each write does to a read -/

@[simp] theorem value?_setValue (name : String) (value : Json) (c : Context) :
    (c.setValue name value).value? name = some value := Entries.find?_insert_self ..

@[simp] theorem logValue?_setLogValue (name : String) (value : Json) (c : Context) :
    (c.setLogValue name value).logValue? name = some value := Entries.find?_insert_self ..

@[simp] theorem logValue?_setId (id : String) (c : Context) :
    (c.setId id).logValue? Key.traceId = some (.str id) := Entries.find?_insert_self ..

@[simp] theorem handle?_setHandle (name : String) (handle : Handle) (c : Context) :
    (c.setHandle name handle).handle? name = some handle := Entries.find?_insert_self ..

/-- A derived context reads the values and handles that its parent read at that moment. -/
theorem reads_derived (parent : Nat) (fresh name : String) (c : Context) :
    (c.derived parent fresh).value? name = c.value? name ∧
      (c.derived parent fresh).handle? name = c.handle? name := ⟨rfl, rfl⟩

/-! ## A context for people -/

/-- A value with its shape in words. -/
def shapeText : Json → String
  | .null => "Null"
  | .bool b => "Bool(" ++ (if b then "true" else "false") ++ ")"
  | .num n => "Number(" ++ String.ofList n.text ++ ")"
  | .str s => "String(" ++ Text.quote s ++ ")"
  | .arr items => "Array [" ++ String.intercalate ", " (itemTexts items) ++ "]"
  | .obj members => "Object \x7b" ++ String.intercalate ", " (memberTexts members) ++ "\x7d"
where
  /-- The items of an array. -/
  itemTexts : List Json → List String
    | [] => []
    | item :: items => shapeText item :: itemTexts items
  /-- The members of an object. -/
  memberTexts : List (String × Json) → List String
    | [] => []
    | (name, value) :: members =>
      (Text.quote name ++ ": " ++ shapeText value) :: memberTexts members

/-- A bag in words. -/
def bagText (bag : Entries Json) : String :=
  "\x7b" ++ String.intercalate ", "
    (bag.map (fun e => Text.quote e.1 ++ ": " ++ shapeText e.2)) ++ "\x7d"

/-- A context in words; of the handles only the names are shown. -/
def text (c : Context) : String :=
  "Context \x7b id: " ++ Text.quote c.id ++ ", values: " ++ bagText c.values ++
    ", log_values: " ++ bagText c.logValues ++ ", config_keys: [" ++
    String.intercalate ", " (c.handles.names.map Text.quote) ++ "], logging_enabled: " ++
    (if c.logging then "true" else "false") ++ " \x7d"

end Context
end EventRelay
