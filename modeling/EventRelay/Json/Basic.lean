import EventRelay.Decimal.Binary64
import EventRelay.Entries

/-!
# JSON values

Integers that a signed or an unsigned word of 64 bits holds stay exact and are numbers of another
shape than the doubles. The members of an object are a table in ascending order of their names.

* `Json.Number`: an exact integer or a finite double.
* `Json.member?`, `Json.text?`, `Json.natural?`: reading a value that is hoped to have a shape.
-/

namespace EventRelay

/-- A number: an integer within 64 bits or a finite double. -/
inductive Json.Number where
  | int (value : Int) (fits : -9223372036854775808 ≤ value ∧ value < 18446744073709551616)
  | float (x : Finite64)
  deriving DecidableEq

/-- A JSON value. -/
inductive Json where
  | null
  | bool (b : Bool)
  | num (n : Json.Number)
  | str (s : String)
  | arr (items : List Json)
  | obj (members : List (String × Json))

namespace Json

instance : Inhabited Json := ⟨.null⟩

/-! ## Building values -/

/-- An integer as a number, if 64 bits hold it. -/
def Number.ofInt? (i : Int) : Option Number :=
  if h : -9223372036854775808 ≤ i ∧ i < 18446744073709551616 then some (.int i h) else none

/-- An unsigned word as a number. -/
def Number.ofUInt64 (n : UInt64) : Number :=
  .int n.toNat ⟨by omega, by have := n.toNat_lt; omega⟩

/-- A signed word as a number. -/
def Number.ofInt64 (n : Int64) : Number :=
  .int n.toInt ⟨Int64.le_toInt n, by have := Int64.toInt_lt n; omega⟩

/-- An unsigned word as a value. -/
def ofUInt64 (n : UInt64) : Json := .num (.ofUInt64 n)

/-- A small count as a value; one beyond 64 bits stands at the greatest word. -/
def ofNat (n : Nat) : Json := .ofUInt64 (.ofNat (min n (UInt64.size - 1)))

/-- A double as a value; null for one that is not finite. -/
def ofDouble : Binary64 → Json
  | .finite x => .num (.float x)
  | _ => .null

/-- An object of the given members, the later winning of two with one name. -/
def ofMembers (members : List (String × Json)) : Json := .obj (Entries.ofList members)

/-- An optional value, null when absent. -/
def ofOption : Option Json → Json
  | some j => j
  | none => .null

/-! ## Reading values -/

/-- The member of a name; none in a value that is no object. -/
def member? (name : String) : Json → Option Json
  | .obj members => Entries.find? name members
  | _ => none

/-- The text of a string value. -/
def text? : Json → Option String
  | .str s => some s
  | _ => none

/-- The truth value. -/
def truth? : Json → Option Bool
  | .bool b => some b
  | _ => none

/-- The integer value. -/
def integer? : Json → Option Int
  | .num (.int i _) => some i
  | _ => none

/-- The integer value when an unsigned word holds it. -/
def natural? : Json → Option Nat
  | .num (.int i _) => if 0 ≤ i then some i.toNat else none
  | _ => none

/-- The items of an array. -/
def items? : Json → Option (List Json)
  | .arr items => some items
  | _ => none

/-- The members of an object. -/
def members? : Json → Option (List (String × Json))
  | .obj members => some members
  | _ => none

theorem natural?_ofUInt64 (n : UInt64) : natural? (ofUInt64 n) = some n.toNat := by
  simp [natural?, ofUInt64, Number.ofUInt64]

/-! ## Equality as data -/

mutual

/-- Decides equality as data. -/
def decEq : (a b : Json) → Decidable (a = b)
  | .null, .null => .isTrue rfl
  | .bool a, .bool b =>
    if h : a = b then .isTrue (h ▸ rfl) else .isFalse (fun e => h (Json.bool.inj e))
  | .num a, .num b =>
    if h : a = b then .isTrue (h ▸ rfl) else .isFalse (fun e => h (Json.num.inj e))
  | .str a, .str b =>
    if h : a = b then .isTrue (h ▸ rfl) else .isFalse (fun e => h (Json.str.inj e))
  | .arr a, .arr b =>
    match decEqItems a b with
    | .isTrue h => .isTrue (h ▸ rfl)
    | .isFalse h => .isFalse (fun e => h (Json.arr.inj e))
  | .obj a, .obj b =>
    match decEqMembers a b with
    | .isTrue h => .isTrue (h ▸ rfl)
    | .isFalse h => .isFalse (fun e => h (Json.obj.inj e))
  | .null, .bool _ | .null, .num _ | .null, .str _ | .null, .arr _ | .null, .obj _
  | .bool _, .null | .bool _, .num _ | .bool _, .str _ | .bool _, .arr _ | .bool _, .obj _
  | .num _, .null | .num _, .bool _ | .num _, .str _ | .num _, .arr _ | .num _, .obj _
  | .str _, .null | .str _, .bool _ | .str _, .num _ | .str _, .arr _ | .str _, .obj _
  | .arr _, .null | .arr _, .bool _ | .arr _, .num _ | .arr _, .str _ | .arr _, .obj _
  | .obj _, .null | .obj _, .bool _ | .obj _, .num _ | .obj _, .str _ | .obj _, .arr _ =>
    .isFalse (fun e => nomatch e)

/-- Decides equality of arrays item by item. -/
def decEqItems : (a b : List Json) → Decidable (a = b)
  | [], [] => .isTrue rfl
  | [], _ :: _ | _ :: _, [] => .isFalse (fun e => nomatch e)
  | x :: xs, y :: ys =>
    match decEq x y, decEqItems xs ys with
    | .isTrue h, .isTrue hs => .isTrue (h ▸ hs ▸ rfl)
    | .isFalse h, _ => .isFalse (fun e => h (List.cons.inj e).1)
    | _, .isFalse h => .isFalse (fun e => h (List.cons.inj e).2)

/-- Decides equality of members one by one. -/
def decEqMembers : (a b : List (String × Json)) → Decidable (a = b)
  | [], [] => .isTrue rfl
  | [], _ :: _ | _ :: _, [] => .isFalse (fun e => nomatch e)
  | (k, x) :: xs, (l, y) :: ys =>
    if hk : k = l then
      match decEq x y, decEqMembers xs ys with
      | .isTrue h, .isTrue hs => .isTrue (hk ▸ h ▸ hs ▸ rfl)
      | .isFalse h, _ => .isFalse (fun e => h (Prod.mk.inj (List.cons.inj e).1).2)
      | _, .isFalse h => .isFalse (fun e => h (List.cons.inj e).2)
    else .isFalse (fun e => hk (Prod.mk.inj (List.cons.inj e).1).1)

end

instance : DecidableEq Json := decEq

end Json
end EventRelay
