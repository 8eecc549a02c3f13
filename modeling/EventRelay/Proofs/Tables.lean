import EventRelay.Entries
import Mathlib.Data.List.Pairwise
import Mathlib.Data.List.Perm.Subperm

/-!
# Tables as finite maps

A table in order is known by what is read from it, so that two ways to make one are compared name
by name. Beside it stand the laws of steps that may fail.

* `find?_eq_some_iff`: what is read is what a table in order holds.
* `find?_overlay`: what is read from one table laid over another.
* `Entries.ext`: tables in order from which the same is read are the same.
* `eq_iff_forall_mem`: so are tables of one length of which one holds what the other holds.
* `insert_insert_of_ne`, `insert_insert_self`: two writes, to different names and to one.
* `insert_eq_append`, `ofList_eq_self`: a table in order is made by writing its entries one after
  another.
* `Except.map_eq_ok_iff`, `Except.bind_eq_ok_iff`, `Except.mapError_eq_ok_iff`: when a step
  succeeds; `Except.map_eq_error_iff` and its like: when it fails. `exists_of_mem_mapM`: what comes
  of many such steps.
-/

namespace EventRelay

/-! ## Steps that may fail -/

theorem Except.map_eq_ok_iff {ε : Type u} {α β : Type v} {f : α → β} {x : Except ε α} {b : β} :
    x.map f = .ok b ↔ ∃ a, x = .ok a ∧ f a = b := by
  cases x <;> simp [Except.map]

theorem Except.bind_eq_ok_iff {ε : Type u} {α β : Type v} {f : α → Except ε β} {x : Except ε α}
    {b : β} : x >>= f = .ok b ↔ ∃ a, x = .ok a ∧ f a = .ok b := by
  cases x <;> simp [bind, Except.bind]

theorem Except.mapError_eq_ok_iff {ε ε' : Type u} {α : Type v} {f : ε → ε'} {x : Except ε α}
    {a : α} : x.mapError f = .ok a ↔ x = .ok a := by
  cases x with
  | error e => exact ⟨nofun, nofun⟩
  | ok b => exact ⟨fun h => congrArg _ (Except.ok.inj h), fun h => congrArg _ (Except.ok.inj h)⟩

theorem Except.map_eq_error_iff {ε : Type u} {α β : Type v} {f : α → β} {x : Except ε α} {e : ε} :
    x.map f = .error e ↔ x = .error e := by
  cases x <;> simp [Except.map]

theorem Except.bind_eq_error_iff {ε : Type u} {α β : Type v} {f : α → Except ε β}
    {x : Except ε α} {e : ε} :
    x >>= f = .error e ↔ x = .error e ∨ ∃ a, x = .ok a ∧ f a = .error e := by
  cases x <;> simp [bind, Except.bind]

theorem Except.mapError_eq_error_iff {ε ε' : Type u} {α : Type v} {f : ε → ε'} {x : Except ε α}
    {e' : ε'} : x.mapError f = .error e' ↔ ∃ e, x = .error e ∧ f e = e' := by
  cases x <;> simp [Except.mapError]

theorem Except.eq_ok_of_toOption {ε : Type u} {α : Type v} {x : Except ε α} {a : α}
    (h : x.toOption = some a) : x = .ok a := by
  cases x with
  | error e => cases h
  | ok b => exact congrArg _ (Option.some.inj h)

/-- What a step that may fail makes of a list is made of its items. -/
theorem exists_of_mem_mapM {α : Type u} {β : Type v} {f : α → Option β} {items : List α}
    {made : List β} (h : items.mapM f = some made) {b : β} (hb : b ∈ made) :
    ∃ a ∈ items, f a = some b := by
  induction items generalizing made with
  | nil =>
    obtain rfl := Option.some.inj (List.mapM_nil.symm.trans h)
    cases hb
  | cons a items ih =>
    rw [List.mapM_cons] at h
    obtain ⟨first, hfirst, h⟩ := Option.bind_eq_some_iff.1 h
    obtain ⟨rest, hrest, h⟩ := Option.bind_eq_some_iff.1 h
    obtain rfl := Option.some.inj h
    obtain rfl | hb := List.mem_cons.1 hb
    · exact ⟨a, List.mem_cons_self, hfirst⟩
    · obtain ⟨a', ha', heq⟩ := ih hrest hb
      exact ⟨a', List.mem_cons_of_mem _ ha', heq⟩

namespace Entries

variable {α : Type u} {β : Type v} {entries : Entries α} {name : String} {value : α}

/-! ## Order -/

theorem sorted_nil : Sorted ([] : Entries α) := List.Pairwise.nil

theorem sorted_cons {rest : Entries α} :
    Sorted ((name, value) :: rest) ↔ (∀ e ∈ rest, name < e.1) ∧ Sorted rest :=
  List.pairwise_cons

theorem Sorted.filter (h : Sorted entries) (keep : String × α → Bool) :
    Sorted (entries.filter keep) :=
  List.Pairwise.filter keep h

theorem Sorted.erase (h : Sorted entries) (name : String) : Sorted (entries.erase name) :=
  h.filter _

theorem Sorted.nodup (h : Sorted entries) : entries.Nodup := by
  refine List.Pairwise.imp ?_ h
  rintro a b hlt rfl
  exact String.lt_irrefl _ hlt

theorem Sorted.nodup_names (h : Sorted entries) : (entries.map (·.1)).Nodup := by
  rw [List.nodup_iff_pairwise_ne, List.pairwise_map]
  exact List.Pairwise.imp String.ne_of_lt h

theorem sorted_mapValues (f : α → β) : (entries.mapValues f).Sorted ↔ entries.Sorted := by
  simp [Sorted, mapValues, List.pairwise_map]

/-! ## Reading -/

theorem mem_of_find?_eq_some (h : find? name entries = some value) : (name, value) ∈ entries := by
  induction entries with
  | nil => cases h
  | cons e rest ih =>
    obtain ⟨k, v⟩ := e
    rw [find?_cons] at h
    split at h
    · next hk =>
      obtain rfl := Option.some.inj h
      rw [hk]
      exact List.mem_cons_self
    · exact List.mem_cons_of_mem _ (ih h)

/-- What a table holds is read from it if no other entry has the name. -/
theorem find?_eq_some_of_mem (h : (entries.map (·.1)).Nodup) (hmem : (name, value) ∈ entries) :
    find? name entries = some value := by
  induction entries with
  | nil => cases hmem
  | cons e rest ih =>
    obtain ⟨k, v⟩ := e
    rw [List.map_cons, List.nodup_cons] at h
    rw [find?_cons]
    obtain heq | hmem := List.mem_cons.1 hmem
    · obtain ⟨rfl, rfl⟩ := Prod.mk.inj heq
      exact if_pos rfl
    · have hk : k ≠ name := fun heq => h.1 (List.mem_map.2 ⟨_, hmem, heq.symm⟩)
      rw [if_neg hk]
      exact ih h.2 hmem

/-- What is read is what a table in order holds. -/
theorem find?_eq_some_iff (h : Sorted entries) :
    find? name entries = some value ↔ (name, value) ∈ entries :=
  ⟨mem_of_find?_eq_some, find?_eq_some_of_mem h.nodup_names⟩

/-- Tables in order from which the same is read are the same. -/
theorem ext {other : Entries α} (h : Sorted entries) (h' : Sorted other)
    (heq : ∀ name, find? name entries = find? name other) : entries = other := by
  have hmem : ∀ e, e ∈ entries ↔ e ∈ other := fun ⟨name, v⟩ => by
    rw [← find?_eq_some_iff h, heq, find?_eq_some_iff h']
  have hperm := (List.perm_ext_iff_of_nodup h.nodup h'.nodup).2 hmem
  exact hperm.eq_of_pairwise
    (fun _ _ _ _ hlt hgt => absurd hlt (String.lt_asymm hgt)) h h'

/-- Tables in order are the same if they have as many entries and one holds every entry of the
other. -/
theorem eq_iff_forall_mem {other : Entries α} (h : Sorted entries) (h' : Sorted other) :
    entries = other ↔
      entries.length = other.length ∧ ∀ e ∈ entries, find? e.1 other = some e.2 := by
  refine ⟨?_, fun ⟨hlen, hall⟩ => ?_⟩
  · rintro rfl
    exact ⟨rfl, fun e he => (find?_eq_some_iff h).2 he⟩
  · have hsub : entries ⊆ other := fun e he => mem_of_find?_eq_some (hall e he)
    have hperm := (List.subperm_of_subset h.nodup hsub).perm_of_length_le (Nat.le_of_eq hlen.symm)
    exact hperm.eq_of_pairwise
      (fun _ _ _ _ hlt hgt => absurd hlt (String.lt_asymm hgt)) h h'

theorem find?_mapValues (f : α → β) (name : String) (entries : Entries α) :
    find? name (entries.mapValues f) = (find? name entries).map f := by
  induction entries with
  | nil => rfl
  | cons e rest ih =>
    obtain ⟨k, v⟩ := e
    show (if k = name then some (f v) else find? name (mapValues f rest)) = _
    rw [find?_cons, ih]
    split <;> rfl

theorem find?_filter {keep : String × α → Bool} (hkeep : ∀ v, keep (name, v) = true) :
    find? name (entries.filter keep) = find? name entries := by
  induction entries with
  | nil => rfl
  | cons e rest ih =>
    obtain ⟨k, v⟩ := e
    by_cases hk : k = name
    · subst hk
      simp [hkeep, find?_cons]
    · by_cases hke : keep (k, v) = true
      · simp [hke, find?_cons, hk, ih]
      · simp [hke, find?_cons, hk, ih]

/-- What is left under a name of entries of which some are dropped by their value. -/
theorem find?_filterMap {f : α → Option β} (h : (entries.map (·.1)).Nodup) (name : String) :
    find? name (entries.filterMap fun e => (f e.2).map fun b => (e.1, b)) =
      (find? name entries).bind f := by
  induction entries with
  | nil => rfl
  | cons e rest ih =>
    obtain ⟨k, a⟩ := e
    rw [List.map_cons, List.nodup_cons] at h
    rw [List.filterMap_cons, find?_cons]
    cases hvalue : f a with
    | some b =>
      simp only [Option.map_some, find?_cons, ih h.2]
      split <;> simp [hvalue]
    | none =>
      simp only [Option.map_none, ih h.2]
      split
      · next hk =>
        -- no other entry has the name
        subst hk
        have hgone : find? k rest = none :=
          find?_eq_none_iff.2 fun e he heq => h.1 (List.mem_map.2 ⟨e, he, heq⟩)
        simp [hgone, hvalue]
      · rfl

theorem nodup_names_filterMap {f : α → Option β} (h : (entries.map (·.1)).Nodup) :
    ((entries.filterMap fun e => (f e.2).map fun b => (e.1, b)).map (·.1)).Nodup := by
  refine h.sublist ?_
  clear h
  induction entries with
  | nil => exact List.Sublist.slnil
  | cons e rest ih =>
    rw [List.filterMap_cons]
    split
    · exact ih.cons _
    · next b hb =>
      obtain ⟨value, -, rfl⟩ := Option.map_eq_some_iff.1 hb
      exact ih.cons_cons _

theorem find?_erase_self (name : String) (entries : Entries α) :
    find? name (entries.erase name) = none := by
  rw [find?_eq_none_iff]
  intro e he
  simpa using (List.mem_filter.1 he).2

theorem find?_erase_of_ne {other : String} (h : other ≠ name) :
    find? other (entries.erase name) = find? other entries :=
  find?_filter fun _ => by simpa using h

/-- What the upper table holds is read from it, and the rest from the base. -/
theorem find?_overlay {base upper : Entries α} (h : (upper.map (·.1)).Nodup) :
    find? name (base.overlay upper) = (find? name upper).or (find? name base) := by
  induction upper generalizing base with
  | nil => rfl
  | cons e rest ih =>
    obtain ⟨k, v⟩ := e
    rw [List.map_cons, List.nodup_cons] at h
    show find? name (overlay (base.insert k v) rest) = _
    rw [ih h.2, find?_insert, find?_cons]
    by_cases hk : k = name
    · subst hk
      have hgone : find? k rest = none :=
        find?_eq_none_iff.2 fun e he heq => h.1 (List.mem_map.2 ⟨e, he, heq⟩)
      simp [hgone]
    · simp [hk, Ne.symm hk]

/-! ## Writing -/

theorem lt_or_eq_or_gt (a b : String) : a < b ∨ a = b ∨ b < a := by
  by_cases hlt : a < b
  · exact .inl hlt
  · by_cases heq : a = b
    · exact .inr (.inl heq)
    · exact .inr (.inr (Std.lt_of_le_of_ne (String.not_lt.1 hlt) (Ne.symm heq)))

theorem insert_cons_of_lt {k : String} {v : α} (h : name < k) :
    insert name value ((k, v) :: entries) = (name, value) :: (k, v) :: entries := by
  rw [insert, if_neg (String.ne_of_lt h).symm, if_pos h]

theorem insert_cons_of_gt {k : String} {v : α} (h : k < name) :
    insert name value ((k, v) :: entries) = (k, v) :: insert name value entries := by
  rw [insert, if_neg (String.ne_of_lt h), if_neg (String.lt_asymm h)]

theorem insert_cons_self {v : α} :
    insert name value ((name, v) :: entries) = (name, value) :: entries := by
  rw [insert, if_pos rfl]

/-- A later write to a name makes up for an earlier one. -/
theorem insert_insert_self (name : String) (value value' : α) (entries : Entries α) :
    (entries.insert name value).insert name value' = entries.insert name value' := by
  induction entries with
  | nil => rw [insert, insert_cons_self, insert]
  | cons e rest ih =>
    obtain ⟨k, v⟩ := e
    obtain h | rfl | h := lt_or_eq_or_gt name k
    · rw [insert_cons_of_lt h, insert_cons_of_lt h, insert_cons_self]
    · simp only [insert_cons_self]
    · rw [insert_cons_of_gt h, insert_cons_of_gt h, insert_cons_of_gt h, ih]

theorem insert_insert_of_lt {other : String} {value' : α} (h : name < other)
    (entries : Entries α) :
    (entries.insert name value).insert other value' =
      (entries.insert other value').insert name value := by
  induction entries with
  | nil => rw [insert, insert_cons_of_gt h, insert, insert_cons_of_lt h]
  | cons e rest ih =>
    obtain ⟨k, v⟩ := e
    obtain hk | rfl | hk := lt_or_eq_or_gt name k
    · rw [insert_cons_of_lt hk, insert_cons_of_gt h]
      obtain ho | rfl | ho := lt_or_eq_or_gt other k
      · rw [insert_cons_of_lt ho, insert_cons_of_lt h]
      · rw [insert_cons_self, insert_cons_of_lt h]
      · rw [insert_cons_of_gt ho, insert_cons_of_lt hk]
    · rw [insert_cons_self, insert_cons_of_gt h, insert_cons_of_gt h, insert_cons_self]
    · have ho := String.lt_trans hk h
      rw [insert_cons_of_gt hk, insert_cons_of_gt ho, insert_cons_of_gt ho, insert_cons_of_gt hk,
        ih]

/-- Writes to different names change places. -/
theorem insert_insert_of_ne {other : String} {value' : α} (hne : name ≠ other)
    (entries : Entries α) :
    (entries.insert name value).insert other value' =
      (entries.insert other value').insert name value := by
  obtain h | h | h := lt_or_eq_or_gt name other
  · exact insert_insert_of_lt h entries
  · exact absurd h hne
  · exact (insert_insert_of_lt h entries).symm

/-- A name beyond all those of a table is written at its end. -/
theorem insert_eq_append (h : ∀ e ∈ entries, e.1 < name) :
    entries.insert name value = entries ++ [(name, value)] := by
  induction entries with
  | nil => rfl
  | cons e rest ih =>
    obtain ⟨k, v⟩ := e
    have hk : k < name := h (k, v) List.mem_cons_self
    rw [insert_cons_of_gt hk, ih fun e he => h e (List.mem_cons_of_mem _ he)]
    rfl

/-- A table in order is made by writing its entries one after another. -/
theorem ofList_eq_self (h : Sorted entries) : ofList entries = entries := by
  have hfold : ∀ (rest acc : Entries α), Sorted (acc ++ rest) →
      rest.foldl (fun acc p => acc.insert p.1 p.2) acc = acc ++ rest := by
    intro rest
    induction rest with
    | nil => exact fun acc _ => (List.append_nil acc).symm
    | cons p rest ih =>
      intro acc h
      have hlt : ∀ e ∈ acc, e.1 < p.1 := fun e he =>
        (List.pairwise_append.1 h).2.2 e he p List.mem_cons_self
      rw [List.foldl_cons, insert_eq_append hlt, ih _ (by simpa using h), List.append_assoc]
      rfl
  exact hfold entries [] h

/-- What a table made of pairs holds is among them. -/
theorem mem_ofList {pairs : List (String × α)} {e : String × α} (h : e ∈ ofList pairs) :
    e ∈ pairs := by
  have hfold : ∀ (pairs acc : List (String × α)),
      e ∈ pairs.foldl (fun acc p => insert p.1 p.2 acc) acc → e ∈ acc ∨ e ∈ pairs := by
    intro pairs
    induction pairs with
    | nil => exact fun acc h => .inl h
    | cons p rest ih =>
      intro acc h
      obtain hmem | hmem := ih _ h
      · obtain rfl | hmem := mem_insert hmem
        · exact .inr List.mem_cons_self
        · exact .inl hmem
      · exact .inr (List.mem_cons_of_mem _ hmem)
  obtain hmem | hmem := hfold pairs [] h
  · cases hmem
  · exact hmem

/-- Pairs with different names are all in the table that is made of them. -/
theorem find?_ofList {pairs : List (String × α)} (hne : (pairs.map (·.1)).Nodup)
    (h : (name, value) ∈ pairs) : find? name (ofList pairs) = some value := by
  have hfold : ∀ (pairs acc : List (String × α)), (pairs.map (·.1)).Nodup →
      ((name, value) ∈ pairs ∨ find? name acc = some value ∧ name ∉ pairs.map (·.1)) →
      find? name (pairs.foldl (fun acc p => insert p.1 p.2 acc) acc) = some value := by
    intro pairs
    induction pairs with
    | nil => exact fun acc _ h => (h.resolve_left List.not_mem_nil).1
    | cons p rest ih =>
      intro acc hne h
      obtain ⟨hp, hrest⟩ := List.nodup_cons.1 hne
      refine ih _ hrest ?_
      obtain h | ⟨hfound, hnot⟩ := h
      · obtain rfl | h := List.mem_cons.1 h
        · exact .inr ⟨find?_insert_self _ _ _, hp⟩
        · exact .inl h
      · rw [List.map_cons, List.mem_cons, not_or] at hnot
        exact .inr ⟨(find?_insert_of_ne hnot.1 _ _).trans hfound, hnot.2⟩
  exact hfold pairs [] hne (.inl h)

end Entries
end EventRelay
