/-!
# Tables of named entries

A table is a list of pairs in ascending order of the names, each name once. JSON objects, the
bags of a context and the maps inside the settings all use it, so that two tables with the same
entries are the same list and print the same text.

* `find?_insert_self`, `find?_insert_of_ne`: what a write does to a read.
* `find?_overlay_of_eq_none`: what the upper table does not name is read from the base.
* `sorted_insert`: a write keeps the order.
-/

namespace EventRelay

/-- Names with a value each; kept in ascending order of the names by the operations below. -/
abbrev Entries (α : Type u) := List (String × α)

namespace Entries

variable {α : Type u} {β : Type v}

/-- The value under a name. -/
def find? (name : String) : Entries α → Option α
  | [] => none
  | (k, v) :: rest => if k = name then some v else find? name rest

/-- Writes the value under a name, in its place in the order. -/
def insert (name : String) (value : α) : Entries α → Entries α
  | [] => [(name, value)]
  | (k, v) :: rest =>
    if k = name then (name, value) :: rest
    else if name < k then (name, value) :: (k, v) :: rest
    else (k, v) :: insert name value rest

/-- Drops the entry of a name. -/
def erase (name : String) (entries : Entries α) : Entries α :=
  entries.filter (fun e => e.1 ≠ name)

/-- The table that holds the given pairs; of two pairs with one name the later wins. -/
def ofList (pairs : List (String × α)) : Entries α :=
  pairs.foldl (fun acc p => acc.insert p.1 p.2) []

/-- Writes every entry of `upper` into `base`. -/
def overlay (base upper : Entries α) : Entries α :=
  upper.foldl (fun acc p => acc.insert p.1 p.2) base

/-- The names, in order. -/
def names (entries : Entries α) : List String := entries.map (·.1)

/-- Changes every value and keeps the names. -/
def mapValues (f : α → β) (entries : Entries α) : Entries β :=
  entries.map (fun e => (e.1, f e.2))

/-- Ascending order of the names, none twice. -/
def Sorted (entries : Entries α) : Prop :=
  entries.Pairwise (fun a b => a.1 < b.1)

/-! ## What a write does to a read -/

@[simp] theorem find?_nil (name : String) : find? name ([] : Entries α) = none := rfl

theorem find?_cons (name k : String) (v : α) (rest : Entries α) :
    find? name ((k, v) :: rest) = if k = name then some v else find? name rest := rfl

@[simp] theorem find?_insert_self (name : String) (value : α) (entries : Entries α) :
    find? name (entries.insert name value) = some value := by
  induction entries with
  | nil => simp [insert, find?]
  | cons e rest ih =>
    obtain ⟨k, v⟩ := e
    simp only [insert]
    split
    · simp [find?]
    · split
      · simp [find?]
      · simp [find?, *]

theorem find?_insert_of_ne {name other : String} (h : other ≠ name) (value : α)
    (entries : Entries α) : find? other (entries.insert name value) = find? other entries := by
  induction entries with
  | nil => simp [insert, find?, Ne.symm h]
  | cons e rest ih =>
    obtain ⟨k, v⟩ := e
    simp only [insert]
    split
    · next hk => subst hk; simp [find?, Ne.symm h]
    · split
      · simp [find?, Ne.symm h]
      · simp [find?, ih]

theorem find?_insert (name other : String) (value : α) (entries : Entries α) :
    find? other (entries.insert name value) =
      if other = name then some value else find? other entries := by
  split
  · next h => subst h; simp
  · next h => exact find?_insert_of_ne h value entries

theorem find?_eq_none_iff {name : String} {entries : Entries α} :
    find? name entries = none ↔ ∀ e ∈ entries, e.1 ≠ name := by
  induction entries with
  | nil => simp
  | cons e rest ih =>
    obtain ⟨k, v⟩ := e
    by_cases hk : k = name <;> simp [find?, hk, ih]

/-- What the upper table does not name is read from the base. -/
theorem find?_overlay_of_eq_none {name : String} {base upper : Entries α}
    (h : find? name upper = none) : find? name (base.overlay upper) = find? name base := by
  rw [find?_eq_none_iff] at h
  unfold overlay
  induction upper generalizing base with
  | nil => rfl
  | cons e rest ih =>
    have hhead : name ≠ e.1 := (h e List.mem_cons_self).symm
    rw [List.foldl_cons, ih fun d hd => h d (List.mem_cons_of_mem e hd),
      find?_insert_of_ne hhead]

theorem find?_ofList_eq_none {name : String} {pairs : List (String × α)}
    (h : ∀ p ∈ pairs, p.1 ≠ name) : find? name (ofList pairs) = none :=
  find?_overlay_of_eq_none (find?_eq_none_iff.2 h)

/-! ## The order -/

theorem mem_insert {name : String} {value : α} {entries : Entries α} {e : String × α}
    (h : e ∈ entries.insert name value) : e = (name, value) ∨ e ∈ entries := by
  induction entries with
  | nil => simpa [insert] using h
  | cons d rest ih =>
    obtain ⟨k, v⟩ := d
    simp only [insert] at h
    split at h
    · rcases List.mem_cons.1 h with h | h
      · exact .inl h
      · exact .inr (List.mem_cons_of_mem _ h)
    · split at h
      · rcases List.mem_cons.1 h with h | h
        · exact .inl h
        · exact .inr h
      · rcases List.mem_cons.1 h with h | h
        · exact .inr (h ▸ List.mem_cons_self)
        · rcases ih h with h | h
          · exact .inl h
          · exact .inr (List.mem_cons_of_mem _ h)

/-- A write keeps the order. -/
theorem sorted_insert {name : String} {value : α} {entries : Entries α}
    (h : entries.Sorted) : (entries.insert name value).Sorted := by
  induction entries with
  | nil => simp [insert, Sorted]
  | cons d rest ih =>
    obtain ⟨k, v⟩ := d
    have hr : Sorted rest := (List.pairwise_cons.1 h).2
    have hk : ∀ e ∈ rest, k < e.1 := (List.pairwise_cons.1 h).1
    simp only [insert]
    split
    · next heq => subst heq; exact List.pairwise_cons.2 ⟨hk, hr⟩
    · split
      · next hlt =>
        refine List.pairwise_cons.2 ⟨fun e he => ?_, h⟩
        rcases List.mem_cons.1 he with he | he
        · exact he ▸ hlt
        · exact String.lt_trans hlt (hk e he)
      · next hne hnlt =>
        refine List.pairwise_cons.2 ⟨fun e he => ?_, ih hr⟩
        rcases mem_insert he with he | he
        · subst he
          exact Std.lt_of_le_of_ne (String.not_lt.1 hnlt) hne
        · exact hk e he

theorem sorted_ofList (pairs : List (String × α)) : (ofList pairs).Sorted := by
  have : ∀ (acc : Entries α), acc.Sorted →
      (pairs.foldl (fun acc p => acc.insert p.1 p.2) acc).Sorted := by
    induction pairs with
    | nil => exact fun _ h => h
    | cons p rest ih => exact fun acc h => ih _ (sorted_insert h)
  exact this [] List.Pairwise.nil

end Entries
end EventRelay
