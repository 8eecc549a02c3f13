import EventRelay.Json.Basic

/-!
# Deep equality

Two values are equal when they have the same shape all the way down. Integers and doubles are
distinct shapes; doubles are compared by value. Objects are compared by looking up each name of the
one in the other.

* `Json.sameAs`: deep equality of values.
* `sameEncoded`: deep equality of what things are written as; what cannot be written equals
  nothing.
-/

namespace EventRelay.Json

/-- Equality of numbers of the same shape. -/
def Number.sameValue : Number → Number → Bool
  | .int i _, .int j _ => i == j
  | .float x, .float y => x.sameValue y
  | _, _ => false

mutual

/-- Deep equality. -/
def sameAs : Json → Json → Bool
  | .null, .null => true
  | .bool a, .bool b => a == b
  | .num a, .num b => a.sameValue b
  | .str a, .str b => a == b
  | .arr a, .arr b => sameItems a b
  | .obj a, .obj b => a.length == b.length && sameMembers a b
  | _, _ => false

/-- Deep equality item by item, of as many items. -/
def sameItems : List Json → List Json → Bool
  | [], [] => true
  | x :: xs, y :: ys => sameAs x y && sameItems xs ys
  | _, _ => false

/-- Whether the second object has each member of the first. -/
def sameMembers : List (String × Json) → List (String × Json) → Bool
  | [], _ => true
  | (name, x) :: rest, ys =>
    (match Entries.find? name ys with
      | some y => sameAs x y
      | none => false) && sameMembers rest ys

end

end EventRelay.Json

namespace EventRelay

/-- Things that are written as a JSON value, if they can be. -/
class Encode (α : Type u) where
  encode? : α → Option Json

/-- Deep equality of what two things are written as. -/
def sameEncoded {α : Type u} {β : Type v} [Encode α] [Encode β] (a : α) (b : β) : Bool :=
  match Encode.encode? a, Encode.encode? b with
  | some x, some y => x.sameAs y
  | _, _ => false

instance : Encode Json := ⟨some⟩
instance : Encode String := ⟨fun s => some (.str s)⟩
instance : Encode Char := ⟨fun c => some (.str (String.ofList [c]))⟩
instance : Encode Bool := ⟨fun b => some (.bool b)⟩
instance : Encode UInt64 := ⟨fun n => some (.ofUInt64 n)⟩
instance : Encode Int64 := ⟨fun n => some (.num (.ofInt64 n))⟩
instance : Encode Binary64 := ⟨fun x => some (.ofDouble x)⟩
instance : Encode Unit := ⟨fun _ => some .null⟩

/-- Nothing is null and something is written alone. -/
instance {α : Type u} [Encode α] : Encode (Option α) := ⟨fun
  | some a => Encode.encode? a
  | none => some .null⟩

/-- A pair is an array of two. -/
instance {α : Type u} {β : Type v} [Encode α] [Encode β] : Encode (α × β) := ⟨fun p => do
  let a ← Encode.encode? p.1
  let b ← Encode.encode? p.2
  pure (.arr [a, b])⟩

/-- A list is an array. -/
instance {α : Type u} [Encode α] : Encode (List α) := ⟨fun items =>
  (items.mapM Encode.encode?).map .arr⟩

/-- Bytes are an array of numbers. -/
instance : Encode ByteArray := ⟨fun bytes =>
  some (.arr (bytes.toList.map (fun b => .ofNat b.toNat)))⟩

/-- The names of a map as text; none when a name is no scalar. -/
class NameText (κ : Type u) where
  nameText? : κ → Option String

instance : NameText String := ⟨some⟩
instance : NameText Int64 := ⟨fun n => some (toString n)⟩
instance : NameText Bool := ⟨fun b => some (if b then "true" else "false")⟩
instance {α : Type u} : NameText (List α) := ⟨fun _ => none⟩

/-- A map from names to values, as the list of its pairs. -/
structure Mapping (κ : Type u) (α : Type v) where
  pairs : List (κ × α)

/-- A map is an object; of two pairs with one name the later wins. -/
instance {κ : Type u} {α : Type v} [NameText κ] [Encode α] : Encode (Mapping κ α) := ⟨fun m => do
  let members ← m.pairs.mapM (fun p => do
    let name ← NameText.nameText? p.1
    let item ← Encode.encode? p.2
    pure (name, item))
  pure (.ofMembers members)⟩

end EventRelay
