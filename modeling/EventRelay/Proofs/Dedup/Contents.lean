import EventRelay.Proofs.Dedup.Recency

/-!
# The records of a duplicate cache

A cache keeps its records in a list. This module says of the list itself what it has to do with the
history that led to it: how long it is, in which order it stands, which time stands in each record,
and which record goes when one has to go.

* `sinceCheck`: how far back in a history the latest check of a digest lies.
* `LetThrough`: the time of the latest check that let the payload of a digest through.
* `Listed`: the list is short, in the order of the latest checks, and tells the times.
  `Reached.listed`: it is so after every history.
* `entries_forget`: forgetting a digest takes out its record and nothing else.
* `check_displaces`: a check takes out a record only for a new digest in a full cache, and then the
  last one.
* `Reached.survives`: a record stays as long as too few other digests are checked to displace it.
* `records_follow_history`: all of this together.
-/

namespace EventRelay
namespace DuplicateCache

/-- Whether an event is a check of a digest. -/
def Event.checks (d : String) : Event → Bool
  | .checked e _ _ => e == d
  | .forgot _ => false

/-- How many events came since the latest check of a digest; all of them if there was none. -/
def sinceCheck (d : String) (past : List Event) : Nat := past.findIdx (Event.checks d)

/-- The digests checked since the latest check of one, whether forgotten again or not. -/
def checkedSince (d : String) : List Event → Finset String
  | [] => ∅
  | .checked e _ _ :: past => if e = d then ∅ else insert e (checkedSince d past)
  | .forgot _ :: past => checkedSince d past

/-- The latest check of a digest that let its payload through was at a time, and the digest was not
forgotten since. -/
def LetThrough (d : String) (t : UInt64) (past : List Event) : Prop :=
  ∃ later earlier, past = later ++ .checked d t false :: earlier ∧
    (∀ u, .checked d u false ∉ later) ∧ .forgot d ∉ later

/-- The list of a cache as its history explains it. -/
structure Listed (past : List Event) (cache : DuplicateCache) : Prop where
  bounded : cache.size ≤ cache.capacity
  distinct : cache.Distinct
  times : ∀ e ∈ cache.entries, LetThrough e.1 e.2 past
  order : cache.entries.Pairwise fun a b => sinceCheck a.1 past < sinceCheck b.1 past

variable {windowMs : UInt64} {capacity : Nat} {past : List Event} {cache : DuplicateCache}
  {d e : String} {t now : UInt64}

/-! ## The latest check -/

theorem sinceCheck_checked_self (d : String) (now : UInt64) (duplicate : Bool)
    (past : List Event) : sinceCheck d (.checked d now duplicate :: past) = 0 := by
  have hyes : Event.checks d (.checked d now duplicate) = true := beq_self_eq_true d
  rw [sinceCheck, List.findIdx_cons, hyes]
  rfl

theorem sinceCheck_checked_of_ne (h : d ≠ e) (now : UInt64) (duplicate : Bool)
    (past : List Event) :
    sinceCheck e (.checked d now duplicate :: past) = sinceCheck e past + 1 := by
  have hno : Event.checks e (.checked d now duplicate) = false := beq_eq_false_iff_ne.2 h
  rw [sinceCheck, List.findIdx_cons, hno]
  rfl

theorem sinceCheck_forgot (d e : String) (past : List Event) :
    sinceCheck e (.forgot d :: past) = sinceCheck e past + 1 := by
  rw [sinceCheck, List.findIdx_cons]
  rfl

theorem letThrough_checked (d : String) (t : UInt64) (past : List Event) :
    LetThrough d t (.checked d t false :: past) :=
  ⟨[], past, rfl, fun _ => List.not_mem_nil, List.not_mem_nil⟩

/-- An event that neither lets the payload through nor forgets the digest changes nothing about when
it was let through. -/
theorem LetThrough.cons (h : LetThrough d t past) {event : Event}
    (hchecked : ∀ u, event ≠ .checked d u false) (hforgot : event ≠ .forgot d) :
    LetThrough d t (event :: past) := by
  obtain ⟨later, earlier, rfl, hnone, hnot⟩ := h
  refine ⟨event :: later, earlier, rfl, fun u => ?_, ?_⟩
  · rw [List.mem_cons, not_or]
    exact ⟨(hchecked u).symm, hnone u⟩
  · rw [List.mem_cons, not_or]
    exact ⟨hforgot.symm, hnot⟩

/-! ## The list after each operation -/

theorem mem_without {entry : String × UInt64} :
    entry ∈ cache.without d ↔ entry ∈ cache.entries ∧ entry.1 ≠ d := by
  simp [without]

theorem listed_new (windowMs : UInt64) (capacity : Nat) : Listed [] (new windowMs capacity) where
  bounded := Nat.zero_le _
  distinct := List.nodup_nil
  times _ h := nomatch h
  order := List.Pairwise.nil

/-- A cache without records is explained by any history. -/
theorem listed_of_nil (h : cache.entries = []) (past : List Event) : Listed past cache where
  bounded := by simp [size, h]
  distinct := by simp [Distinct, h]
  times _ he := by simp [h] at he
  order := by simp [h]

/-- A check puts its digest in front, with the time at which its payload was let through. -/
theorem Listed.put (h : Listed past cache) {duplicate : Bool}
    (ht : LetThrough d t (.checked d now duplicate :: past)) :
    Listed (.checked d now duplicate :: past) (cache.put d t) where
  bounded := length_put_le d t cache
  distinct := h.distinct.put d t
  times entry hentry := by
    obtain rfl | hold := List.mem_cons.1 (List.mem_of_mem_take hentry)
    · exact ht
    · obtain ⟨hmem, hne⟩ := mem_without.1 hold
      exact (h.times entry hmem).cons (fun u heq => hne (Event.checked.inj heq).1.symm) nofun
  order := by
    refine List.Pairwise.sublist (List.take_sublist _ _) (List.pairwise_cons.2 ⟨?_, ?_⟩)
    · intro entry hentry
      rw [sinceCheck_checked_self, sinceCheck_checked_of_ne (mem_without.1 hentry).2.symm]
      exact Nat.succ_pos _
    · refine List.Pairwise.imp_of_mem ?_ (h.order.sublist List.filter_sublist)
      intro a b ha hb hlt
      rw [sinceCheck_checked_of_ne (mem_without.1 ha).2.symm,
        sinceCheck_checked_of_ne (mem_without.1 hb).2.symm]
      exact Nat.succ_lt_succ hlt

theorem Listed.forget (h : Listed past cache) (d : String) :
    Listed (.forgot d :: past) (cache.forget d) where
  bounded := (List.length_filter_le _ _).trans h.bounded
  distinct := h.distinct.forget d
  times entry hentry := by
    obtain ⟨hmem, hne⟩ := mem_without.1 hentry
    exact (h.times entry hmem).cons nofun fun heq => hne (Event.forgot.inj heq).symm
  order := by
    refine (h.order.sublist List.filter_sublist).imp fun hlt => ?_
    rw [sinceCheck_forgot, sinceCheck_forgot]
    exact Nat.succ_lt_succ hlt

theorem find?_eq_some_iff_mem (h : cache.Distinct) :
    cache.find? d = some t ↔ (d, t) ∈ cache.entries := by
  rw [find?, Option.map_eq_some_iff]
  constructor
  · rintro ⟨⟨k, v⟩, hfind, rfl⟩
    obtain rfl : k = d := by simpa using List.find?_some hfind
    exact List.mem_of_find?_eq_some hfind
  · intro hmem
    refine ⟨(d, t), ?_, rfl⟩
    obtain ⟨front, back, heq⟩ := List.append_of_mem hmem
    have hfront : ∀ x ∈ front, ¬ (x.1 == d) = true := fun x hx hbeq => by
      rw [Distinct, heq, List.map_append, List.nodup_append] at h
      exact h.2.2 x.1 (List.mem_map_of_mem hx) d (by simp) (by simpa using hbeq)
    rw [heq, List.find?_append, List.find?_eq_none.2 hfront]
    simp

/-- A digest that is not held has no record to take out. -/
theorem without_of_find?_eq_none (h : cache.find? d = none) : cache.without d = cache.entries := by
  rw [find?, Option.map_eq_none_iff, List.find?_eq_none] at h
  exact List.filter_eq_self.2 fun entry hentry => by simpa using h entry hentry

/-- Forgetting a digest takes out its record and nothing else. -/
theorem entries_forget (h : cache.Distinct) {front back : List (String × UInt64)}
    (heq : cache.entries = front ++ (d, t) :: back) :
    (cache.forget d).entries = front ++ back := by
  have hother : ∀ entry ∈ front ++ back, (entry.1 != d) = true := by
    rw [Distinct, heq, List.map_append, List.map_cons, List.nodup_middle, List.nodup_cons,
      ← List.map_append] at h
    intro entry hentry
    refine bne_iff_ne.2 ?_
    rintro rfl
    exact h.1 (List.mem_map.2 ⟨entry, hentry, rfl⟩)
  rw [forget, without, heq, List.filter_append, List.filter_cons_of_neg (by simp),
    ← List.filter_append, List.filter_eq_self.2 hother]

/-- What a write leaves in place stays, unless the digest is new to a full cache. -/
theorem entries_put (h : cache.size ≤ cache.capacity)
    (hroom : cache.size < cache.capacity ∨ (cache.find? d).isSome) (t : UInt64) :
    (cache.put d t).entries = (d, t) :: cache.without d := by
  refine List.take_of_length_le ?_
  rw [List.length_cons]
  obtain hlt | hheld := hroom
  · exact Nat.lt_of_le_of_lt (List.length_filter_le _ _) hlt
  · refine Nat.lt_of_lt_of_le (List.length_filter_lt_length_iff_exists.2 ?_) h
    rw [find?, Option.isSome_map, List.find?_isSome] at hheld
    obtain ⟨entry, hmem, hentry⟩ := hheld
    exact ⟨entry, hmem, by simpa using hentry⟩

/-- A digest that is new to a full cache takes the place of the record that stands last. -/
theorem entries_put_of_full {front : List (String × UInt64)} {last : String × UInt64}
    (hfull : cache.size = cache.capacity) (hnew : cache.find? d = none)
    (heq : cache.entries = front ++ [last]) (t : UInt64) :
    (cache.put d t).entries = (d, t) :: front := by
  have hcapacity : cache.capacity = front.length + 1 := by
    rw [← hfull, size, heq, List.length_append, List.length_singleton]
  rw [put, without_of_find?_eq_none hnew, heq, hcapacity]
  simp

/-- A write takes out a record only for a digest that is new to a full cache, and then the record
that stands last. -/
theorem put_displaces (h : cache.Distinct) (hle : cache.size ≤ cache.capacity)
    (hheld : (e, t) ∈ cache.entries) (hgone : (cache.put d now).find? e = none) :
    cache.find? d = none ∧ cache.size = cache.capacity ∧
      ∃ front, cache.entries = front ++ [(e, t)] ∧
        (cache.put d now).entries = (d, now) :: front := by
  have hnot : ∀ s, (e, s) ∉ (cache.put d now).entries := fun s hmem => by
    rw [(find?_eq_some_iff_mem (h.put d now)).2 hmem] at hgone
    cases hgone
  have hfull : ¬ (cache.size < cache.capacity ∨ (cache.find? d).isSome) := fun hroom => by
    have hentries := entries_put hle hroom now
    by_cases hed : e = d
    · exact hnot now (by rw [hentries, hed]; exact List.mem_cons_self)
    · exact hnot t (by rw [hentries]; exact List.mem_cons_of_mem _ (mem_without.2 ⟨hheld, hed⟩))
  rw [not_or, Option.not_isSome_iff_eq_none] at hfull
  have hsize : cache.size = cache.capacity := Nat.le_antisymm hle (Nat.not_lt.1 hfull.1)
  obtain ⟨front, last, heq⟩ : ∃ front last, cache.entries = front ++ [last] :=
    (List.eq_nil_or_concat' _).resolve_left (List.ne_nil_of_mem hheld)
  have hentries := entries_put_of_full hsize hfull.2 heq now
  obtain hfront | hlast := List.mem_append.1 (heq ▸ hheld)
  · exact absurd (by rw [hentries]; exact List.mem_cons_of_mem _ hfront) (hnot t)
  · exact ⟨hfull.2, hsize, front, List.mem_singleton.1 hlast ▸ heq, hentries⟩

/-- A check takes out a record only for a digest that is new to a full cache, and then the record
that stands last. -/
theorem check_displaces (h : cache.Distinct) (hle : cache.size ≤ cache.capacity)
    (hheld : cache.find? e = some t) (hgone : (cache.check d now).2.find? e = none) :
    cache.find? d = none ∧ cache.size = cache.capacity ∧
      ∃ front, cache.entries = front ++ [(e, t)] ∧
        (cache.check d now).2.entries = (d, now) :: front := by
  have hmem := (find?_eq_some_iff_mem h).1 hheld
  by_cases hw : cache.windowMs = 0
  · rw [check, if_pos hw, hheld] at hgone
    cases hgone
  · obtain ⟨first, hfind, -, hc⟩ | ⟨-, hc⟩ := check_cases hw d now
    · rw [hc] at hgone
      obtain ⟨hnone, -⟩ := put_displaces h hle hmem hgone
      rw [hfind] at hnone
      cases hnone
    · rw [hc] at hgone ⊢
      exact put_displaces h hle hmem hgone

/-! ## What a run leaves -/

/-- Only digests checked since its own latest check stand in front of one. -/
theorem crowd_subset_checkedSince (d : String) (past : List Event) :
    crowd d past ⊆ checkedSince d past := by
  induction past with
  | nil => exact Finset.Subset.refl _
  | cons event past ih =>
    cases event with
    | checked other now duplicate =>
      rw [crowd, checkedSince]
      split
      · exact Finset.Subset.refl _
      · exact Finset.insert_subset_insert _ ih
    | forgot other => exact (Finset.erase_subset _ _).trans ih

/-- A digest that is neither checked nor forgotten again outlasts what is checked meanwhile, if that
is less than the cache has places. -/
theorem Outlasts.append {later : List Event} (h : Outlasts capacity d past)
    (hchecked : ∀ u b, .checked d u b ∉ later) (hforgot : .forgot d ∉ later)
    (hfew : (checkedSince d (later ++ past)).card < capacity) :
    Outlasts capacity d (later ++ past) := by
  induction later with
  | nil => exact h
  | cons event later ih =>
    have hchecked' : ∀ u b, .checked d u b ∉ later := fun u b hmem =>
      hchecked u b (List.mem_cons_of_mem _ hmem)
    have hforgot' : .forgot d ∉ later := fun hmem => hforgot (List.mem_cons_of_mem _ hmem)
    cases event with
    | checked other now duplicate =>
      have hne : other ≠ d := by
        rintro rfl
        exact hchecked now duplicate List.mem_cons_self
      rw [List.cons_append, checkedSince, if_neg hne] at hfew
      have hrest := (Finset.card_le_card (Finset.subset_insert _ _)).trans_lt hfew
      refine .inr ⟨ih hchecked' hforgot' hrest, (Finset.card_le_card ?_).trans_lt hfew⟩
      exact Finset.insert_subset_insert _ (crowd_subset_checkedSince _ _)
    | forgot other =>
      have hne : other ≠ d := by
        rintro rfl
        exact hforgot List.mem_cons_self
      exact ⟨hne, ih hchecked' hforgot' hfew⟩

/-- What is not about a digest changes nothing about when it was let through. -/
theorem admitted_append {later : List Event} (hchecked : ∀ u b, .checked d u b ∉ later)
    (past : List Event) : admitted d (later ++ past) = admitted d past := by
  induction later with
  | nil => rfl
  | cons event later ih =>
    have hrest := ih fun u b hmem => hchecked u b (List.mem_cons_of_mem _ hmem)
    rcases event with ⟨other, now, _ | _⟩ | other
    · have hne : other ≠ d := by
        rintro rfl
        exact hchecked now false List.mem_cons_self
      rw [List.cons_append, admitted, if_neg hne, hrest]
    · exact hrest
    · exact hrest

namespace Reached

/-- Without a window nothing is held. -/
theorem entries_of_windowMs_zero (h : Reached 0 capacity past cache) : cache.entries = [] := by
  induction h with
  | new => rfl
  | check d now h ih =>
    rw [DuplicateCache.check, if_pos h.windowMs_eq]
    exact ih
  | forget d h ih => rw [DuplicateCache.forget, without, ih, List.filter_nil]

/-- **Representation.** The list of a cache is what its history makes of it. -/
theorem listed (h : Reached windowMs capacity past cache) : Listed past cache := by
  by_cases hw : windowMs = 0
  · subst hw
    exact listed_of_nil h.entries_of_windowMs_zero past
  · induction h with
    | new => exact listed_new windowMs capacity
    | @check past cache d now h ih =>
      have hwin : cache.windowMs ≠ 0 := by rw [h.windowMs_eq]; exact hw
      obtain ⟨first, hf, -, he⟩ | ⟨-, he⟩ := check_cases hwin d now
      · -- a repeat within the window keeps the time of its record
        rw [he]
        refine ih.put (LetThrough.cons (ih.times (d, first) ?_) nofun nofun)
        exact (find?_eq_some_iff_mem ih.distinct).1 hf
      · rw [he]
        exact ih.put (letThrough_checked d now past)
    | forget d _ ih => exact ih.forget d

/-- **Survival.** A record stays while its digest is neither checked nor forgotten, if fewer other
digests than there are places are checked since its latest check. -/
theorem survives {later : List Event} {cache' : DuplicateCache}
    (h : Reached windowMs capacity past cache)
    (h' : Reached windowMs capacity (later ++ past) cache') (hheld : cache.find? d = some t)
    (hchecked : ∀ u b, .checked d u b ∉ later) (hforgot : .forgot d ∉ later)
    (hfew : (checkedSince d (later ++ past)).card < capacity) : cache'.find? d = some t := by
  have hw : windowMs ≠ 0 := by
    rintro rfl
    rw [find?, h.entries_of_windowMs_zero] at hheld
    cases hheld
  have hc : 0 < capacity := Nat.zero_lt_of_lt hfew
  obtain ⟨hout, hadmitted⟩ := (h.find?_eq_some_iff hw hc d t).1 hheld
  exact (h'.find?_eq_some_iff hw hc d t).2
    ⟨hout.append hchecked hforgot hfew, (admitted_append hchecked past).trans hadmitted⟩

end Reached

/-- The digest that was checked stands first, if anything can be held. -/
theorem head?_check (hw : cache.windowMs ≠ 0) (hc : 0 < cache.capacity) (d : String)
    (now : UInt64) : ∃ t, (cache.check d now).2.entries.head? = some (d, t) := by
  obtain ⟨n, hn⟩ : ∃ n, cache.capacity = n + 1 := ⟨cache.capacity - 1, by omega⟩
  obtain ⟨first, -, -, he⟩ | ⟨-, he⟩ := check_cases hw d now <;> rw [he] <;>
    exact ⟨_, by rw [put, hn]; rfl⟩

/-- What a history says of the records of the cache that it leads to. -/
structure RecordsFollow (windowMs : UInt64) (capacity : Nat) (past : List Event)
    (cache : DuplicateCache) : Prop where
  /-- No more digests are held than there are places. -/
  bounded : cache.size ≤ capacity
  /-- No digest is held twice. -/
  distinct : (cache.entries.map (·.1)).Nodup
  /-- A record holds the time of the latest check that let its payload through, and the digest was
  not forgotten since. -/
  times : ∀ d t, (d, t) ∈ cache.entries → LetThrough d t past
  /-- The records stand in the order of the latest checks of their digests. -/
  order : cache.entries.Pairwise fun a b => sinceCheck a.1 past < sinceCheck b.1 past
  /-- With a window and room, the digest of a check is held, and stands first. -/
  checked : windowMs ≠ 0 → 0 < capacity → ∀ d now, ∃ t,
    (cache.check d now).2.entries.head? = some (d, t)
  /-- Forgetting a digest takes out its record and leaves the others as they stand. -/
  forgotten : ∀ front d t back, cache.entries = front ++ (d, t) :: back →
    (cache.forget d).entries = front ++ back
  /-- Forgetting a digest that is not held does nothing. -/
  unknown : ∀ d, cache.find? d = none → cache.forget d = cache
  /-- A check takes out a record only for a new digest in a full cache: the one record whose digest
  was checked longest ago. -/
  displaced : ∀ d now e t, cache.find? e = some t → (cache.check d now).2.find? e = none →
    cache.find? d = none ∧ cache.size = capacity ∧
      ∃ front, cache.entries = front ++ [(e, t)] ∧
        (cache.check d now).2.entries = (d, now) :: front ∧
        ∀ other ∈ front, sinceCheck other.1 past < sinceCheck e past
  /-- A record stays, whatever other digests are forgotten, as long as fewer than there are places
  are checked since the latest check of its own. -/
  survives : ∀ later cache' d t, Reached windowMs capacity (later ++ past) cache' →
    cache.find? d = some t → (∀ u b, .checked d u b ∉ later) → .forgot d ∉ later →
    (checkedSince d (later ++ past)).card < capacity → cache'.find? d = some t

/-- **Records by history.** Whatever was checked and forgotten, at whatever times, the records of a
cache are what the history makes of them, each operation takes out what it has to and no more, and
a record stays until so many other digests are checked that the cache is full of them. -/
theorem records_follow_history (h : Reached windowMs capacity past cache) :
    RecordsFollow windowMs capacity past cache where
  bounded := h.capacity_eq ▸ h.listed.bounded
  distinct := h.listed.distinct
  times d t := h.listed.times (d, t)
  order := h.listed.order
  checked hw hc := head?_check (by rwa [h.windowMs_eq]) (by rwa [h.capacity_eq])
  forgotten _ _ _ _ := entries_forget h.listed.distinct
  unknown d hnone := by rw [DuplicateCache.forget, without_of_find?_eq_none hnone]
  displaced d now e t hheld hgone := by
    obtain ⟨hnone, hfull, front, heq, hnext⟩ :=
      check_displaces h.listed.distinct h.listed.bounded hheld hgone
    refine ⟨hnone, hfull.trans h.capacity_eq, front, heq, hnext, fun other hother => ?_⟩
    have horder := h.listed.order
    rw [heq, List.pairwise_append] at horder
    exact horder.2.2 other hother (e, t) List.mem_cons_self
  survives _ _ _ _ := h.survives

/-- Two payloads, and the first again. -/
def revisit : List Event :=
  [.checked "first" 2 true, .checked "second" 1 false, .checked "first" 0 false]

/-- The cache with two places that they lead to. -/
def revisited : DuplicateCache := ⟨2, 60000, [("first", 0), ("second", 1)]⟩

theorem reached_revisited : Reached 60000 2 revisit revisited := by
  have h₀ : (new 60000 2).check "first" 0 = (false, ⟨2, 60000, [("first", 0)]⟩) := by
    decide +kernel
  have h₁ : (⟨2, 60000, [("first", 0)]⟩ : DuplicateCache).check "second" 1 =
      (false, ⟨2, 60000, [("second", 1), ("first", 0)]⟩) := by decide +kernel
  have h₂ : (⟨2, 60000, [("second", 1), ("first", 0)]⟩ : DuplicateCache).check "first" 2 =
      (true, revisited) := by decide +kernel
  have hfirst := (@Reached.new 60000 2).check "first" 0
  rw [h₀] at hfirst
  have hsecond := hfirst.check "second" 1
  rw [h₁] at hsecond
  have hrepeat := hsecond.check "first" 2
  rwa [h₂] at hrepeat

/-- The record of the payload that came once makes room for a third, though it is the younger. -/
theorem records_follow_history_revisited :
    Reached 60000 2 revisit revisited ∧ LetThrough "first" 0 revisit ∧
      ∃ front, revisited.entries = front ++ [("second", 1)] ∧
        (revisited.check "third" 3).2.entries = ("third", 3) :: front := by
  have hfollow := records_follow_history reached_revisited
  obtain ⟨-, -, front, heq, hnext, -⟩ :=
    hfollow.displaced "third" 3 "second" 1 (by decide +kernel) (by decide +kernel)
  exact ⟨reached_revisited, hfollow.times "first" 0 List.mem_cons_self, front, heq, hnext⟩

end DuplicateCache
end EventRelay
