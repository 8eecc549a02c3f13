import EventRelay.Proofs.Json.Shape
import EventRelay.Settings.Field

/-!
# Nodes of a document

A JSON value comes back from the node that it is read into, and each shape of field reads back the
JSON value that it is written as.

* `Node.toJson_ofJson`: a node keeps the value that it is made of.
* `NodeReader.list_strings`, `NodeReader.table_mapValues` and their like: what is written is read.
* `NodeReader.entries_sorted`, `NodeReader.extensions_within`: what is read from a table in order is
  in order.
-/

namespace EventRelay

namespace Node

variable {o : Origin}

theorem ofMembers_eq_mapValues (o : Origin) (members : List (String × Json)) :
    ofJson.ofMembers o members = Entries.mapValues (ofJson o) members := by
  induction members with
  | nil => rfl
  | cons e members ih =>
    obtain ⟨name, value⟩ := e
    rw [ofJson.ofMembers, ih]
    rfl

theorem find?_ofMembers (o : Origin) (name : String) (members : List (String × Json)) :
    Entries.find? name (ofJson.ofMembers o members) =
      (Entries.find? name members).map (ofJson o) := by
  rw [ofMembers_eq_mapValues, Entries.find?_mapValues]

theorem sorted_ofMembers {members : List (String × Json)} :
    Entries.Sorted (ofJson.ofMembers o members) ↔ Entries.Sorted members := by
  rw [ofMembers_eq_mapValues, Entries.sorted_mapValues]

/-- A number comes back from the scalar that it is read into. -/
theorem ofScalar_ofNumber (n : Json.Number) : ofScalar (ofNumber n) = .num n := by
  cases n with
  | int i fits =>
    rw [ofNumber]
    split
    · next h =>
      have hword : (UInt64.ofNat i.toNat).toNat = i.toNat :=
        UInt64.toNat_ofNat_of_lt' (by rw [UInt64.size]; omega)
      simp only [ofScalar, Json.ofUInt64, Json.Number.ofUInt64, hword, Int.toNat_of_nonneg h]
    · next h =>
      have hword : (Int64.ofInt i).toInt = i :=
        Int64.toInt_ofInt_of_le (by omega) (by omega)
      simp only [ofScalar, Json.Number.ofInt64, hword]
  | float x => rfl

mutual

/-- A node keeps the value that it is made of. -/
theorem toJson_ofJson (o : Origin) : ∀ j : Json, (ofJson o j).toJson = j
  | .null => rfl
  | .bool _ => rfl
  | .num n => by rw [ofJson, toJson, ofScalar_ofNumber]
  | .str _ => rfl
  | .arr items => by rw [ofJson, toJson, toItems_ofItems]
  | .obj members => by rw [ofJson, toJson, toMembers_ofMembers]

theorem toItems_ofItems (o : Origin) :
    ∀ items : List Json, toJson.toItems (ofJson.ofItems o items) = items
  | [] => rfl
  | item :: items => by
    rw [ofJson.ofItems, toJson.toItems, toJson_ofJson o item, toItems_ofItems o items]

theorem toMembers_ofMembers (o : Origin) :
    ∀ members : List (String × Json), toJson.toMembers (ofJson.ofMembers o members) = members
  | [] => rfl
  | (name, value) :: members => by
    rw [ofJson.ofMembers, toJson.toMembers, toJson_ofJson o value, toMembers_ofMembers o members]

end

end Node

namespace NodeReader

variable {α : Type} {item : NodeReader α} {path : List String} {o : Origin}

/-! ## What is written is read -/

theorem text_str (path : List String) (o : Origin) (s : String) :
    text path (.ofJson o (.str s)) = .ok s := rfl

theorem flag_bool (path : List String) (o : Origin) (b : Bool) :
    flag path (.ofJson o (.bool b)) = .ok b := rfl

theorem below_ofUInt64 {bound : Nat} {n : UInt64} (h : n.toNat < bound) (expected : String)
    (path : List String) (o : Origin) :
    below bound expected path (.ofJson o (.ofUInt64 n)) = .ok n.toNat := by
  have hnode : Node.ofJson o (.ofUInt64 n) = .scalar o (.unsigned n) := by
    simp only [Json.ofUInt64, Json.Number.ofUInt64, Node.ofJson, Node.ofNumber]
    rw [if_pos (Int.natCast_nonneg _), Int.toNat_natCast, UInt64.ofNat_toNat]
  rw [hnode]
  exact if_pos h

theorem word_ofUInt64 (path : List String) (o : Origin) (n : UInt64) :
    word path (.ofJson o (.ofUInt64 n)) = .ok n := by
  rw [word, below_ofUInt64 n.toNat_lt]
  exact congrArg Except.ok UInt64.ofNat_toNat

theorem size_ofUInt64 (path : List String) (o : Origin) (n : UInt64) :
    size path (.ofJson o (.ofUInt64 n)) = .ok n := by
  rw [size, below_ofUInt64 n.toNat_lt]
  exact congrArg Except.ok UInt64.ofNat_toNat

theorem attempts_toUInt64 (path : List String) (o : Origin) (n : UInt32) :
    attempts path (.ofJson o (.ofUInt64 n.toUInt64)) = .ok n := by
  rw [attempts, below_ofUInt64 (by simpa using n.toNat_lt)]
  simp [Except.map]

theorem port_toUInt64 (path : List String) (o : Origin) (n : UInt16) :
    port path (.ofJson o (.ofUInt64 n.toUInt64)) = .ok n := by
  rw [port, below_ofUInt64 (by simpa using n.toNat_lt)]
  simp [Except.map]

theorem list_strings (path : List String) (o : Origin) (items : List String) :
    list text path (.ofJson o (Field.strings items)) = .ok items := by
  have hfrom : ∀ (items : List String) (i : Nat),
      itemsFrom text path i (Node.ofJson.ofItems o (items.map .str)) = .ok items := by
    intro items
    induction items with
    | nil => exact fun _ => rfl
    | cons item items ih =>
      intro i
      rw [List.map_cons, Node.ofJson.ofItems, itemsFrom, text_str, ih]
      rfl
  exact hfrom items 0

/-- A table is read back if each of its values is. -/
theorem table_mapValues {encode : α → Json}
    (h : ∀ path a, item path (.ofJson o (encode a)) = .ok a) (path : List String)
    (values : Entries α) :
    table item path (.ofJson o (.obj (values.mapValues encode))) = .ok values := by
  have hentries : ∀ values : Entries α,
      entries item path (Node.ofJson.ofMembers o (values.mapValues encode)) = .ok values := by
    intro values
    induction values with
    | nil => rfl
    | cons e values ih =>
      obtain ⟨name, a⟩ := e
      rw [Entries.mapValues, List.map_cons, Node.ofJson.ofMembers, entries, h]
      exact congrArg (fun r => r >>= fun more => pure ((name, a) :: more)) ih
  exact hentries values

theorem extensions_obj (path : List String) (o : Origin) (members : Entries Json) :
    extensions path (.ofJson o (.obj members)) = .ok members :=
  congrArg Except.ok (Node.toMembers_ofMembers o members)

/-- A value that may be missing is read back if the value is and it is written as an object. -/
theorem optional_ofOption {encode : α → Json}
    (h : ∀ a, item path (.ofJson o (encode a)) = .ok a)
    (hobj : ∀ a, ∃ members, encode a = .obj members) (value : Option α) :
    optional item path (.ofJson o (.ofOption (value.map encode))) = .ok value := by
  cases value with
  | none => rfl
  | some a =>
    obtain ⟨members, he⟩ := hobj a
    have hread := h a
    rw [he] at hread
    simp only [Option.map_some, Json.ofOption, he]
    exact congrArg (Except.map some) hread

theorem credentials_toJson (path : List String) (o : Origin) (c : Credentials) :
    credentials path (.ofJson o c.toJson) = .ok c := by
  have hmembers :
      Entries.ofList [("Username", Json.str c.username), ("Password", .str c.password)] =
        [("Password", .str c.password), ("Username", .str c.username)] := by
    simp [Entries.ofList, Entries.insert, show "Password" < "Username" by decide]
  rw [Credentials.toJson, Json.ofMembers, hmembers]
  rfl

theorem logTarget_toJson (path : List String) (o : Origin) (t : LogTarget) :
    logTarget path (.ofJson o t.toJson) = .ok t := by
  have hmembers : Entries.ofList [("Enable", Json.bool t.enable), ("FileName", .str t.fileName),
      ("Level", .str t.level)] = _ := Entries.ofList_eq_self
    (List.pairwise_map.1 (by decide : ["Enable", "FileName", "Level"].Pairwise (· < ·)))
  rw [LogTarget.toJson, Json.ofMembers, hmembers]
  rfl

theorem into_of_eq_ok {β : Type} {set : α → β → β} {node : Node} {a : α}
    (h : item path node = .ok a) : item.into set path node = .ok (set a) :=
  congrArg (Except.map set) h

theorem into_eq_ok_iff {β : Type} {set : α → β → β} {node : Node} {change : β → β} :
    item.into set path node = .ok change ↔ ∃ a, item path node = .ok a ∧ set a = change :=
  Except.map_eq_ok_iff

/-! ## What is read is in order -/

/-- The names of a table stay when its values are read. -/
theorem entries_names {members : List (String × Node)} {values : Entries α}
    (h : entries item path members = .ok values) :
    values.map (·.1) = members.map (·.1) := by
  induction members generalizing values with
  | nil =>
    cases h
    rfl
  | cons e members ih =>
    obtain ⟨name, node⟩ := e
    rw [entries] at h
    obtain ⟨a, -, h⟩ := Except.bind_eq_ok_iff.1 h
    obtain ⟨more, hmore, h⟩ := Except.bind_eq_ok_iff.1 h
    cases h
    rw [List.map_cons, List.map_cons, ih hmore]

/-- A table that was read from one in order is in order. -/
theorem table_sorted {members : Entries Json} (hsorted : Entries.Sorted members)
    {values : Entries α} (h : table item path (.ofJson o (.obj members)) = .ok values) :
    Entries.Sorted values := by
  have hnames := entries_names h
  have hnodes := Node.sorted_ofMembers (o := o).2 hsorted
  unfold Entries.Sorted at hnodes ⊢
  rw [← List.pairwise_map (f := Prod.fst) (R := (· < ·))] at hnodes ⊢
  rwa [hnames]

end NodeReader
end EventRelay
