import EventRelay.Json.Equality
import EventRelay.Json.Parser
import EventRelay.Settings.Field

/-!
# The document form of the settings

The members of a document are read in the order of their names; a member that names no field is
passed over, and the first that its field refuses refuses the document.

* `Settings.ofMembers`: the settings that the members of a document make.
* `Settings.parse`: the settings of a document text.
* `Settings.toJson`: the document of settings, with every field.
-/

namespace EventRelay

/-- Why a document is refused. -/
inductive DocumentError where
  | badText (text : String) (fault : Json.Fault)
  | badValue (mismatch : Mismatch)

/-- The reason in words. -/
def DocumentError.message : DocumentError → String
  | .badText text fault =>
    fault.message text.toList ++ " in " ++ Mismatch.sourceName .document
  | .badValue mismatch => mismatch.message

namespace Settings

/-- One member read into the settings so far. -/
def readMember (s : Settings) (member : String × Node) : Except Mismatch Settings :=
  match Field.ofKey? member.1 with
  | some f => (f.read [member.1] member.2).map (fun change => change s)
  | none => .ok s

/-- The settings that the members of a document make. -/
def ofMembers (members : List (String × Node)) : Except Mismatch Settings :=
  members.foldlM readMember zero

/-- The settings of a document text. -/
def parse (text : String) : Except DocumentError Settings :=
  match Json.parseObject text with
  | .error fault => .error (.badText text fault)
  | .ok members =>
    (ofMembers (Node.ofJson.ofMembers .document members)).mapError .badValue

/-- The document of settings. -/
def toJson (s : Settings) : Json := .ofMembers (Field.all.map (fun f => (f.key, f.write s)))

instance : Encode Settings := ⟨fun s => some s.toJson⟩

end Settings
end EventRelay
