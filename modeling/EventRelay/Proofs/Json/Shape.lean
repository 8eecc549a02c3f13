import EventRelay.Json.Parser
import EventRelay.Proofs.Tables

/-!
# The shape of a value that was read

The tables of a value that was read from a text are in order, and its arrays and objects are nested
no deeper than the reader allows.

* `Json.Within`: tables in order, and at most so many arrays and objects around one another.
* `Json.Ordered`, `Json.nesting`: the two halves of this (`within_iff`).
* `Json.Exact`: a value without doubles.
* `value_within`, `parseObject_within`: what is read from a text is within the bound.
-/

namespace EventRelay
namespace Json

mutual

/-- The tables of a value are in order, and at most so many arrays and objects enclose one
another. -/
def Within : Json → Nat → Prop
  | .arr _, 0 | .obj _, 0 => False
  | .arr items, n + 1 => ItemsWithin items n
  | .obj members, n + 1 => Entries.Sorted members ∧ MembersWithin members n
  | _, _ => True

/-- Every item is within a bound. -/
def ItemsWithin : List Json → Nat → Prop
  | [], _ => True
  | item :: items, n => item.Within n ∧ ItemsWithin items n

/-- The value of every member is within a bound. -/
def MembersWithin : List (String × Json) → Nat → Prop
  | [], _ => True
  | (_, value) :: members, n => value.Within n ∧ MembersWithin members n

end

mutual

/-- The tables of a value are in order, however deep they stand. -/
def Ordered : Json → Prop
  | .arr items => ItemsOrdered items
  | .obj members => Entries.Sorted members ∧ MembersOrdered members
  | _ => True

/-- The tables of every item are in order. -/
def ItemsOrdered : List Json → Prop
  | [] => True
  | item :: items => item.Ordered ∧ ItemsOrdered items

/-- The tables of the value of every member are in order. -/
def MembersOrdered : List (String × Json) → Prop
  | [] => True
  | (_, value) :: members => value.Ordered ∧ MembersOrdered members

end

mutual

/-- How many arrays and objects enclose one another at most. -/
def nesting : Json → Nat
  | .arr items => itemsNesting items + 1
  | .obj members => membersNesting members + 1
  | _ => 0

/-- How many enclose one another in an item. -/
def itemsNesting : List Json → Nat
  | [] => 0
  | item :: items => max item.nesting (itemsNesting items)

/-- How many enclose one another in the value of a member. -/
def membersNesting : List (String × Json) → Nat
  | [] => 0
  | (_, value) :: members => max value.nesting (membersNesting members)

end

mutual

/-- A value without doubles. -/
def Exact : Json → Prop
  | .num (.float _) => False
  | .arr items => ItemsExact items
  | .obj members => MembersExact members
  | _ => True

/-- Every item is without doubles. -/
def ItemsExact : List Json → Prop
  | [] => True
  | item :: items => item.Exact ∧ ItemsExact items

/-- The value of every member is without doubles. -/
def MembersExact : List (String × Json) → Prop
  | [] => True
  | (_, value) :: members => value.Exact ∧ MembersExact members

end

theorem itemsWithin_iff {items : List Json} {n : Nat} :
    ItemsWithin items n ↔ ∀ item ∈ items, item.Within n := by
  induction items with
  | nil => simp [ItemsWithin]
  | cons item items ih => simp [ItemsWithin, ih]

theorem membersWithin_iff {members : List (String × Json)} {n : Nat} :
    MembersWithin members n ↔ ∀ e ∈ members, e.2.Within n := by
  induction members with
  | nil => simp [MembersWithin]
  | cons e members ih =>
    obtain ⟨name, value⟩ := e
    simp [MembersWithin, ih]

theorem itemsOrdered_iff {items : List Json} :
    ItemsOrdered items ↔ ∀ item ∈ items, item.Ordered := by
  induction items with
  | nil => simp [ItemsOrdered]
  | cons item items ih => simp [ItemsOrdered, ih]

theorem membersOrdered_iff {members : List (String × Json)} :
    MembersOrdered members ↔ ∀ e ∈ members, e.2.Ordered := by
  induction members with
  | nil => simp [MembersOrdered]
  | cons e members ih =>
    obtain ⟨name, value⟩ := e
    simp [MembersOrdered, ih]

mutual

/-- A value is within a bound when its tables are in order and it is nested no deeper. -/
theorem within_iff : ∀ {j : Json} {n : Nat}, j.Within n ↔ j.Ordered ∧ j.nesting ≤ n
  | .null, _ | .bool _, _ | .num _, _ | .str _, _ => by simp [Within, Ordered, nesting]
  | .arr _, 0 | .obj _, 0 => by simp [Within, nesting]
  | .arr items, n + 1 => by
    rw [Within, Ordered, nesting, itemsWithin_iff_nesting, Nat.add_le_add_iff_right]
  | .obj members, n + 1 => by
    rw [Within, Ordered, nesting, membersWithin_iff_nesting, Nat.add_le_add_iff_right, and_assoc]

theorem itemsWithin_iff_nesting : ∀ {items : List Json} {n : Nat},
    ItemsWithin items n ↔ ItemsOrdered items ∧ itemsNesting items ≤ n
  | [], _ => by simp [ItemsWithin, ItemsOrdered, itemsNesting]
  | item :: items, n => by
    rw [ItemsWithin, ItemsOrdered, itemsNesting, within_iff, itemsWithin_iff_nesting, Nat.max_le]
    exact and_and_and_comm

theorem membersWithin_iff_nesting : ∀ {members : List (String × Json)} {n : Nat},
    MembersWithin members n ↔ MembersOrdered members ∧ membersNesting members ≤ n
  | [], _ => by simp [MembersWithin, MembersOrdered, membersNesting]
  | (_, value) :: members, n => by
    rw [MembersWithin, MembersOrdered, membersNesting, within_iff, membersWithin_iff_nesting,
      Nat.max_le]
    exact and_and_and_comm

end

theorem itemsExact_iff {items : List Json} : ItemsExact items ↔ ∀ item ∈ items, item.Exact := by
  induction items with
  | nil => simp [ItemsExact]
  | cons item items ih => simp [ItemsExact, ih]

theorem membersExact_iff {members : List (String × Json)} :
    MembersExact members ↔ ∀ e ∈ members, e.2.Exact := by
  induction members with
  | nil => simp [MembersExact]
  | cons e members ih =>
    obtain ⟨name, value⟩ := e
    simp [MembersExact, ih]

/-! ## What is read from a text -/

theorem membersWithin_insert {name : String} {item : Json} {members : Entries Json} {n : Nat}
    (hitem : item.Within n) (h : MembersWithin members n) :
    MembersWithin (members.insert name item) n := by
  rw [membersWithin_iff] at h ⊢
  intro e he
  obtain rfl | he := Entries.mem_insert he
  · exact hitem
  · exact h e he

theorem within_of_map {α : Type} {x : Except Fault α} {f : α → Json × List Char} {n : Nat}
    {j : Json} {rest : List Char} (h : x.map f = .ok (j, rest)) (hf : ∀ a, (f a).1.Within n) :
    j.Within n := by
  obtain ⟨a, -, he⟩ := Except.map_eq_ok_iff.1 h
  have hin := hf a
  rw [he] at hin
  exact hin

/-- With so much fuel values are within the bound that they are read with, items and members are so
if those before them are. -/
structure ReadsWithin (fuel : Nat) : Prop where
  value : ∀ {depth cs j rest}, value fuel depth cs = .ok (j, rest) → j.Within depth
  items : ∀ {depth first done cs read rest}, items fuel depth first done cs = .ok (read, rest) →
    (∀ item ∈ done, item.Within depth) → ∀ item ∈ read, item.Within depth
  members : ∀ {depth first done cs read rest},
    members fuel depth first done cs = .ok (read, rest) → Entries.Sorted done →
      MembersWithin done depth → Entries.Sorted read ∧ MembersWithin read depth

theorem readsWithin (fuel : Nat) : ReadsWithin fuel := by
  induction fuel with
  | zero =>
    refine ⟨fun h => ?_, fun h => ?_, fun h => ?_⟩
    · rw [value] at h
      cases h
    · rw [items] at h
      cases h
    · rw [members] at h
      cases h
  | succ fuel ih =>
    refine ⟨fun {depth cs j rest} h => ?_, fun {depth first done cs read rest} h hdone => ?_,
      fun {depth first done cs read rest} h hsorted hdone => ?_⟩
    · rw [value] at h
      split at h
      · cases h
      · exact within_of_map h fun _ => trivial
      · exact within_of_map h fun _ => trivial
      · exact within_of_map h fun _ => trivial
      · exact within_of_map h fun _ => trivial
      · exact within_of_map h fun _ => trivial
      · cases depth with
        | zero => cases h
        | succ depth =>
          obtain ⟨read, hread, he⟩ := Except.map_eq_ok_iff.1 h
          cases he
          exact itemsWithin_iff.2 (ih.items hread (by simp))
      · cases depth with
        | zero => cases h
        | succ depth =>
          obtain ⟨read, hread, he⟩ := Except.map_eq_ok_iff.1 h
          cases he
          exact ih.members hread Entries.sorted_nil trivial
      · split at h
        · exact within_of_map h fun _ => trivial
        · cases h
    · rw [items] at h
      split at h
      · cases h
      · cases h
        simpa using hdone
      · split at h
        · cases h
        · next item more hitem =>
          refine ih.items h fun x hx => ?_
          obtain rfl | hx := List.mem_cons.1 hx
          · exact ih.value hitem
          · exact hdone x hx
    · rw [members] at h
      split at h
      · cases h
      · cases h
        exact ⟨hsorted, hdone⟩
      · split at h
        · cases h
        · split at h
          · cases h
          · split at h
            · cases h
            · next item more hitem =>
              exact ih.members h (Entries.sorted_insert hsorted)
                (membersWithin_insert (ih.value hitem) hdone)

/-- What is read from a text is within the bound that it is read with. -/
theorem value_within {fuel depth : Nat} {cs rest : List Char} {j : Json}
    (h : value fuel depth cs = .ok (j, rest)) : j.Within depth :=
  (readsWithin fuel).value h

/-- The members of a text are in order, and their values are nested less deep than the text may
be. -/
theorem parseObject_within {text : String} {read : List (String × Json)}
    (h : parseObject text = .ok read) :
    Entries.Sorted read ∧ MembersWithin read (maxNesting - 1) := by
  unfold parseObject at h
  dsimp only at h
  split at h
  · cases h
  · split at h
    · cases h
    · next found rest hfound =>
      have hin : (Json.obj found).Within maxNesting := value_within hfound
      unfold ended at h
      split at h
      · cases h
        exact hin
      · cases h
    · cases h

end Json
end EventRelay
