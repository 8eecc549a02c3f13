import EventRelay.Settings.Document
import EventRelay.Settings.Variable

/-!
# Environment variables over a document

A variable whose name starts with `EEL_`, in any case, gives a value to the field that the rest of
its name spells; points in the rest lead into tables. A table laid over a table keeps what it does
not name, and anything else replaces what was there.

* `Node.overlay`: one node over another.
* `Environment.table`: the table that variables make.
* `Settings.ofSources`: the settings of a document and variables.
-/

namespace EventRelay

/-- Variables in the order in which they were first set, each name once. -/
abbrev Environment := List (String × String)

namespace Environment

/-- The variables after setting one; a name that was set before keeps its place. -/
def set (name value : String) : Environment → Environment
  | [] => [(name, value)]
  | (k, v) :: rest => if k = name then (k, value) :: rest else (k, v) :: set name value rest

/-- The variables after setting each pair in turn. -/
def ofSettings (pairs : List (String × String)) : Environment :=
  pairs.foldl (fun env p => set p.1 p.2 env) []

/-- The value of a variable. -/
def get? (name : String) (env : Environment) : Option String :=
  (env.find? (fun p => p.1 == name)).map (·.2)

/-- What the names of variables for the settings start with. -/
def marker : String := "EEL_"

/-- The path into the settings that the name of a variable spells. -/
def path? (name : String) : Option (List String) :=
  let trimmed := Text.trim name.toList
  let rest := trimmed.drop marker.length
  if Text.asciiUpper (String.ofList (trimmed.take marker.length)) = marker then
    let segments := Text.split '.' (Text.trim rest)
    if segments.any List.isEmpty then none else some (segments.map String.ofList)
  else none

end Environment

namespace Node

/-- A value at the end of a path of tables. -/
def nest : List String → Node → Node
  | [], node => node
  | segment :: path, node => .table .environment [(segment, nest path node)]

mutual

/-- One node over another. -/
def overlay : Node → Node → Node
  | .table _ upper, .table _ under => .table .environment (overlayEntries upper under)
  | upper, _ => upper

/-- Every entry of one table written into another. -/
def overlayEntries : List (String × Node) → List (String × Node) → List (String × Node)
  | [], under => under
  | (name, node) :: upper, under =>
    let merged := match Entries.find? name under with
      | some old => overlay node old
      | none => node
    overlayEntries upper (Entries.insert name merged under)

end

/-- The entries of a table; none of another value. -/
def entries : Node → Entries Node
  | .table _ members => members
  | _ => []

end Node

/-- The table that variables make, each laid over those before it. -/
def Environment.table (env : Environment) : Node :=
  env.foldl (fun acc p =>
    match Environment.path? p.1 with
    | some path => (Node.nest path (Variable.parse p.2)).overlay acc
    | none => acc) (.table .environment [])

namespace Settings

/-- The settings of a document text and variables laid over it. -/
def ofSources (text : String) (env : Environment) : Except DocumentError Settings :=
  match Json.parseObject text with
  | .error fault => .error (.badText text fault)
  | .ok members =>
    let document := Node.ofJson.ofMembers .document members
    let merged := Node.overlayEntries env.table.entries document
    (ofMembers merged).mapError .badValue

end Settings
end EventRelay
