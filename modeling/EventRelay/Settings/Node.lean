import EventRelay.Decimal.Layout
import EventRelay.Json.Basic
import EventRelay.Text.Number
import EventRelay.Text.Quoted

/-!
# Values that know where they come from

Settings are read from a document and from environment variables. A node is a value of either,
with its origin, so that a complaint about a value can say where it stands.

* `Node.ofJson`, `Node.toJson`: between nodes and JSON values.
* `Mismatch.message`: what is wrong with a value, in words.
-/

namespace EventRelay

/-- Where a value comes from. -/
inductive Origin where
  | document
  | environment
  deriving DecidableEq, Repr

/-- A value without parts. Words read with a sign and without are of different kinds. -/
inductive Scalar where
  | null
  | bool (b : Bool)
  | unsigned (n : UInt64)
  | signed (i : Int64)
  | double (x : Binary64)
  | text (s : String)
  deriving DecidableEq

/-- A value with its origin. -/
inductive Node where
  | scalar (origin : Origin) (value : Scalar)
  | list (origin : Origin) (items : List Node)
  | table (origin : Origin) (entries : List (String × Node))

namespace Node

instance : Inhabited Node := ⟨.scalar .document .null⟩

/-- The origin of a value. -/
def origin : Node → Origin
  | .scalar o _ | .list o _ | .table o _ => o

/-- A number as a scalar. -/
def ofNumber : Json.Number → Scalar
  | .int i _ => if 0 ≤ i then .unsigned (.ofNat i.toNat) else .signed (.ofInt i)
  | .float x => .double (.finite x)

/-- A JSON value of the given origin. -/
def ofJson (o : Origin) : Json → Node
  | .null => .scalar o .null
  | .bool b => .scalar o (.bool b)
  | .num n => .scalar o (ofNumber n)
  | .str s => .scalar o (.text s)
  | .arr items => .list o (ofItems o items)
  | .obj members => .table o (ofMembers o members)
where
  /-- The items of an array. -/
  ofItems (o : Origin) : List Json → List Node
    | [] => []
    | item :: items => ofJson o item :: ofItems o items
  /-- The members of an object. -/
  ofMembers (o : Origin) : List (String × Json) → List (String × Node)
    | [] => []
    | (name, value) :: members => (name, ofJson o value) :: ofMembers o members

/-- A scalar as a JSON value; a double that is not finite is null. -/
def ofScalar : Scalar → Json
  | .null => .null
  | .bool b => .bool b
  | .unsigned n => .ofUInt64 n
  | .signed i => .num (.ofInt64 i)
  | .double x => .ofDouble x
  | .text s => .str s

/-- A value as JSON, without its origin. -/
def toJson : Node → Json
  | .scalar _ value => ofScalar value
  | .list _ items => .arr (toItems items)
  | .table _ entries => .obj (toMembers entries)
where
  /-- The items of a list. -/
  toItems : List Node → List Json
    | [] => []
    | item :: items => toJson item :: toItems items
  /-- The entries of a table. -/
  toMembers : List (String × Node) → List (String × Json)
    | [] => []
    | (name, value) :: entries => (name, toJson value) :: toMembers entries

/-- What a value shows of itself in a complaint. -/
def found : Node → String
  | .scalar _ .null => "unit"
  | .scalar _ (.bool b) => "bool " ++ (if b then "true" else "false")
  | .scalar _ (.unsigned n) => "unsigned int `" ++ toString n.toNat ++ "`"
  | .scalar _ (.signed i) => "signed int `" ++ toString i.toInt ++ "`"
  | .scalar _ (.double x) => "float `" ++ x.messageText ++ "`"
  | .scalar _ (.text s) => "string " ++ Text.quote s
  | .list _ _ => "sequence"
  | .table _ _ => "map"

end Node

/-- How a value fails to be what a field asks for. -/
inductive MismatchKind where
  | wrongType
  | outOfRange
  deriving DecidableEq, Repr

/-- A value that a field refuses: what was found, what was asked for, and where it stands. -/
structure Mismatch where
  kind : MismatchKind
  found : String
  expected : String
  path : List String
  origin : Origin
  deriving DecidableEq, Repr

namespace Mismatch

/-- A value of the wrong type. -/
def wrongType (node : Node) (expected : String) (path : List String) : Mismatch :=
  ⟨.wrongType, node.found, expected, path, node.origin⟩

/-- A number out of the range of its type. -/
def outOfRange (node : Node) (expected : String) (path : List String) : Mismatch :=
  ⟨.outOfRange, node.found, expected, path, node.origin⟩

/-- The name of a source in a complaint. -/
def sourceName : Origin → String
  | .document => "JSON source string"
  | .environment => "`EEL_` environment variable(s)"

/-- The place of a value as its source spells it: the settings of a document stand in its default
profile, and the names of variables are in upper case. -/
def key (m : Mismatch) : String :=
  match m.origin with
  | .document => String.intercalate "." ("default" :: m.path)
  | .environment => String.intercalate "." (m.path.map Text.asciiUpper)

/-- What is wrong, and where. -/
def message (m : Mismatch) : String :=
  (match m.kind with
    | .wrongType => "invalid type: found "
    | .outOfRange => "invalid value ") ++ m.found ++ ", expected " ++ m.expected ++
    " for key " ++ Text.quote m.key ++ " in " ++ sourceName m.origin

end Mismatch
end EventRelay
