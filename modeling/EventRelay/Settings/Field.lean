import EventRelay.Settings.Basic
import EventRelay.Settings.Node

/-!
# The fields of the settings

Each field has its name in a document, the way it is read from a node, and the way it is written.

* `Field.key`: the name of a field; `Field.ofKey?` finds the field of a name.
* `Field.read`: what a node makes of a field, or why the field refuses it.
* `Field.write`: the JSON value of a field.
-/

namespace EventRelay

/-- Reads a value that stands at a path. -/
abbrev NodeReader (α : Type) := List String → Node → Except Mismatch α

namespace NodeReader

/-- A string. -/
def text : NodeReader String := fun path node =>
  match node with
  | .scalar _ (.text s) => .ok s
  | _ => .error (.wrongType node "a string" path)

/-- A truth value. -/
def flag : NodeReader Bool := fun path node =>
  match node with
  | .scalar _ (.bool b) => .ok b
  | _ => .error (.wrongType node "a boolean" path)

/-- A whole number from zero on and below `bound`. -/
def below (bound : Nat) (expected : String) : NodeReader Nat := fun path node =>
  match node with
  | .scalar _ (.unsigned n) =>
    if n.toNat < bound then .ok n.toNat else .error (.outOfRange node expected path)
  | .scalar _ (.signed i) =>
    if 0 ≤ i.toInt ∧ i.toInt < bound then .ok i.toInt.toNat
    else .error (.outOfRange node expected path)
  | _ => .error (.wrongType node expected path)

/-- A port number. -/
def port : NodeReader UInt16 := fun path node => (below UInt16.size "u16" path node).map .ofNat

/-- A count of attempts. -/
def attempts : NodeReader UInt32 := fun path node => (below UInt32.size "u32" path node).map .ofNat

/-- A number of milliseconds or bytes. -/
def word : NodeReader UInt64 := fun path node => (below UInt64.size "u64" path node).map .ofNat

/-- The size of something held in memory. -/
def size : NodeReader UInt64 := fun path node => (below UInt64.size "usize" path node).map .ofNat

/-- The items of a list from the index `i` on; the first that is refused is reported. -/
def itemsFrom {α : Type} (item : NodeReader α) (path : List String) :
    Nat → List Node → Except Mismatch (List α)
  | _, [] => .ok []
  | i, node :: nodes => do
    let a ← item (path ++ [toString i]) node
    let more ← itemsFrom item path (i + 1) nodes
    pure (a :: more)

/-- A list. -/
def list {α : Type} (item : NodeReader α) : NodeReader (List α) := fun path node =>
  match node with
  | .list _ items => itemsFrom item path 0 items
  | _ => .error (.wrongType node "a sequence" path)

/-- The entries of a table; the first that is refused is reported. -/
def entries {α : Type} (item : NodeReader α) (path : List String) :
    List (String × Node) → Except Mismatch (Entries α)
  | [] => .ok []
  | (name, node) :: rest => do
    let a ← item (path ++ [name]) node
    let more ← entries item path rest
    pure ((name, a) :: more)

/-- A table. -/
def table {α : Type} (item : NodeReader α) : NodeReader (Entries α) := fun path node =>
  match node with
  | .table _ members => entries item path members
  | _ => .error (.wrongType node "a map" path)

/-- An open table of any values; nothing is an empty one. -/
def extensions : NodeReader (Entries Json) := fun path node =>
  match node with
  | .table _ members => .ok (Node.toJson.toMembers members)
  | .scalar _ .null => .ok []
  | _ => .error (.wrongType node "a map" path)

/-- One part of a record: its name and what reading it does to the record. -/
structure Part (α : Type) where
  name : String
  read : NodeReader (α → α)

/-- The parts of a record given as a table, in the order of the table; other names are passed
over. -/
def namedParts {α : Type} (parts : List (Part α)) (path : List String) :
    α → List (String × Node) → Except Mismatch α
  | a, [] => .ok a
  | a, (name, node) :: rest =>
    match parts.find? (·.name == name) with
    | some part => do
      let change ← part.read (path ++ [name]) node
      namedParts parts path (change a) rest
    | none => namedParts parts path a rest

/-- The parts of a record given as a list, in the order of the parts; further items are passed
over. -/
def listedParts {α : Type} (path : List String) :
    Nat → List (Part α) → α → List Node → Except Mismatch α
  | i, part :: parts, a, node :: nodes => do
    let change ← part.read (path ++ [toString i]) node
    listedParts path (i + 1) parts (change a) nodes
  | _, _, a, _ => .ok a

/-- A record, as a table or as a list of its parts. -/
def record {α : Type} (kind : String) (parts : List (Part α)) (zero : α) : NodeReader α :=
  fun path node =>
    match node with
    | .table _ members => namedParts parts path zero members
    | .list _ items => listedParts path 0 parts zero items
    | _ => .error (.wrongType node ("struct " ++ kind) path)

/-- A value that may be missing. -/
def optional {α : Type} (item : NodeReader α) : NodeReader (Option α) := fun path node =>
  match node with
  | .scalar _ .null => .ok none
  | _ => (item path node).map some

/-- What reading a value does to a record. -/
def into {α β : Type} (item : NodeReader α) (set : α → β → β) : NodeReader (β → β) :=
  fun path node => (item path node).map set

/-- A user name and a password. -/
def credentials : NodeReader Credentials :=
  record "BasicAuth"
    [⟨"Username", text.into (fun v c => { c with username := v })⟩,
     ⟨"Password", text.into (fun v c => { c with password := v })⟩] default

/-- A log target. -/
def logTarget : NodeReader LogTarget :=
  record "LogTarget"
    [⟨"Enable", flag.into (fun v t => { t with enable := v })⟩,
     ⟨"FileName", text.into (fun v t => { t with fileName := v })⟩,
     ⟨"Level", text.into (fun v t => { t with level := v })⟩] default

end NodeReader

/-! ## The JSON form of parts -/

/-- A user name and a password as JSON. -/
def Credentials.toJson (c : Credentials) : Json :=
  .ofMembers [("Username", .str c.username), ("Password", .str c.password)]

/-- A log target as JSON. -/
def LogTarget.toJson (t : LogTarget) : Json :=
  .ofMembers [("Enable", .bool t.enable), ("FileName", .str t.fileName), ("Level", .str t.level)]

/-! ## Fields -/

/-- A field of the settings. -/
inductive Field where
  | name | appId | version | endpoint | endpointAuth | port | maxAttempts | initialDelay
  | initialBackoff | pad | backoffMethod | httpTimeout | responseHeaderTimeout
  | maxIdleConnsPerHost | maxMessageSize | eventTopics | actionTopics | topicPath
  | workerPoolSize | duplicateTimeout | duplicateCacheSize | allowPartner | defaultPartner
  | httpTenantHeader | httpPartnerHeader | httpTransactionHeader | logParams | debugLog
  | traceLog | customProperties | misc
  deriving DecidableEq, Repr

namespace Field

/-- Every field. -/
def all : List Field :=
  [.name, .appId, .version, .endpoint, .endpointAuth, .port, .maxAttempts, .initialDelay,
   .initialBackoff, .pad, .backoffMethod, .httpTimeout, .responseHeaderTimeout,
   .maxIdleConnsPerHost, .maxMessageSize, .eventTopics, .actionTopics, .topicPath,
   .workerPoolSize, .duplicateTimeout, .duplicateCacheSize, .allowPartner, .defaultPartner,
   .httpTenantHeader, .httpPartnerHeader, .httpTransactionHeader, .logParams, .debugLog,
   .traceLog, .customProperties, .misc]

theorem mem_all (f : Field) : f ∈ all := by cases f <;> decide

/-- The name of a field in a document. -/
def key : Field → String
  | .name => "Name"
  | .appId => "AppId"
  | .version => "Version"
  | .endpoint => "Endpoint"
  | .endpointAuth => "EndpointAuth"
  | .port => "Port"
  | .maxAttempts => "MaxAttempts"
  | .initialDelay => "InitialDelay"
  | .initialBackoff => "InitialBackoff"
  | .pad => "Pad"
  | .backoffMethod => "BackoffMethod"
  | .httpTimeout => "HttpTimeout"
  | .responseHeaderTimeout => "ResponseHeaderTimeout"
  | .maxIdleConnsPerHost => "MaxIdleConnsPerHost"
  | .maxMessageSize => "MaxMessageSize"
  | .eventTopics => "EventTopics"
  | .actionTopics => "ActionTopics"
  | .topicPath => "TopicPath"
  | .workerPoolSize => "WorkerPoolSize"
  | .duplicateTimeout => "DuplicateTimeout"
  | .duplicateCacheSize => "DuplicateCacheSize"
  | .allowPartner => "AllowPartner"
  | .defaultPartner => "DefaultPartner"
  | .httpTenantHeader => "HttpTenantHeader"
  | .httpPartnerHeader => "HttpPartnerHeader"
  | .httpTransactionHeader => "HttpTransactionHeader"
  | .logParams => "LogParams"
  | .debugLog => "DebugLog"
  | .traceLog => "TraceLog"
  | .customProperties => "CustomProperties"
  | .misc => "Misc"

/-- The field of a name. -/
def ofKey? (name : String) : Option Field := all.find? (fun f => f.key == name)

/-- A field is found by its own name, so no two fields share one. -/
theorem ofKey?_key (f : Field) : ofKey? f.key = some f := by cases f <;> rfl

open NodeReader in
/-- What a node makes of a field. -/
def read : Field → NodeReader (Settings → Settings)
  | .name => text.into (fun v s => { s with name := v })
  | .appId => text.into (fun v s => { s with appId := v })
  | .version => text.into (fun v s => { s with version := v })
  | .endpoint => text.into (fun v s => { s with endpoint := v })
  | .endpointAuth => (optional credentials).into (fun v s => { s with endpointAuth := v })
  | .port => NodeReader.port.into (fun v s => { s with port := v })
  | .maxAttempts => attempts.into (fun v s => { s with maxAttempts := v })
  | .initialDelay => word.into (fun v s => { s with initialDelay := v })
  | .initialBackoff => word.into (fun v s => { s with initialBackoff := v })
  | .pad => word.into (fun v s => { s with pad := v })
  | .backoffMethod => text.into (fun v s => { s with backoffMethod := v })
  | .httpTimeout => word.into (fun v s => { s with httpTimeout := v })
  | .responseHeaderTimeout => word.into (fun v s => { s with responseHeaderTimeout := v })
  | .maxIdleConnsPerHost => size.into (fun v s => { s with maxIdleConnsPerHost := v })
  | .maxMessageSize => word.into (fun v s => { s with maxMessageSize := v })
  | .eventTopics => (list text).into (fun v s => { s with eventTopics := v })
  | .actionTopics => (list text).into (fun v s => { s with actionTopics := v })
  | .topicPath => text.into (fun v s => { s with topicPath := v })
  | .workerPoolSize => (table size).into (fun v s => { s with workerPoolSize := v })
  | .duplicateTimeout => word.into (fun v s => { s with duplicateTimeout := v })
  | .duplicateCacheSize => size.into (fun v s => { s with duplicateCacheSize := v })
  | .allowPartner => flag.into (fun v s => { s with allowPartner := v })
  | .defaultPartner => text.into (fun v s => { s with defaultPartner := v })
  | .httpTenantHeader => text.into (fun v s => { s with httpTenantHeader := v })
  | .httpPartnerHeader => text.into (fun v s => { s with httpPartnerHeader := v })
  | .httpTransactionHeader => text.into (fun v s => { s with httpTransactionHeader := v })
  | .logParams => (table text).into (fun v s => { s with logParams := v })
  | .debugLog => (optional logTarget).into (fun v s => { s with debugLog := v })
  | .traceLog => (optional logTarget).into (fun v s => { s with traceLog := v })
  | .customProperties => extensions.into (fun v s => { s with customProperties := v })
  | .misc => extensions.into (fun v s => { s with misc := v })

/-- A list of strings as JSON. -/
def strings (items : List String) : Json := .arr (items.map .str)

/-- The JSON value of a field. -/
def write : Field → Settings → Json
  | .name, s => .str s.name
  | .appId, s => .str s.appId
  | .version, s => .str s.version
  | .endpoint, s => .str s.endpoint
  | .endpointAuth, s => .ofOption (s.endpointAuth.map Credentials.toJson)
  | .port, s => .ofUInt64 s.port.toUInt64
  | .maxAttempts, s => .ofUInt64 s.maxAttempts.toUInt64
  | .initialDelay, s => .ofUInt64 s.initialDelay
  | .initialBackoff, s => .ofUInt64 s.initialBackoff
  | .pad, s => .ofUInt64 s.pad
  | .backoffMethod, s => .str s.backoffMethod
  | .httpTimeout, s => .ofUInt64 s.httpTimeout
  | .responseHeaderTimeout, s => .ofUInt64 s.responseHeaderTimeout
  | .maxIdleConnsPerHost, s => .ofUInt64 s.maxIdleConnsPerHost
  | .maxMessageSize, s => .ofUInt64 s.maxMessageSize
  | .eventTopics, s => strings s.eventTopics
  | .actionTopics, s => strings s.actionTopics
  | .topicPath, s => .str s.topicPath
  | .workerPoolSize, s => .obj (s.workerPoolSize.mapValues .ofUInt64)
  | .duplicateTimeout, s => .ofUInt64 s.duplicateTimeout
  | .duplicateCacheSize, s => .ofUInt64 s.duplicateCacheSize
  | .allowPartner, s => .bool s.allowPartner
  | .defaultPartner, s => .str s.defaultPartner
  | .httpTenantHeader, s => .str s.httpTenantHeader
  | .httpPartnerHeader, s => .str s.httpPartnerHeader
  | .httpTransactionHeader, s => .str s.httpTransactionHeader
  | .logParams, s => .obj (s.logParams.mapValues .str)
  | .debugLog, s => .ofOption (s.debugLog.map LogTarget.toJson)
  | .traceLog, s => .ofOption (s.traceLog.map LogTarget.toJson)
  | .customProperties, s => .obj s.customProperties
  | .misc, s => .obj s.misc

end Field
end EventRelay
