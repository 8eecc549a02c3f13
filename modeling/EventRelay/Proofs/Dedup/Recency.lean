import Mathlib.Data.Finset.Card
import Mathlib.Data.Finset.Dedup
import EventRelay.Dedup.Cache

/-!
# What a duplicate cache still holds

A cache is a list, but its owner only knows what was done to it. This module reads off a history of
checks and forgettings what the cache holds, without looking at the list.

* `DuplicateCache.Reached past cache`: the history `past`, the latest event first, leads from an
  empty cache to `cache`.
* `crowd`: the digests that stand in front of one, those checked since its own latest check and
  not forgotten since. `Outlasts`: the digest was checked, not forgotten since, and at no moment
  since did as many digests stand in front of it as the cache has places.
* `admitted`: when the payload of a digest was last let through.
* `Reached.explains`: a digest is held exactly when it outlasts the history, with the time at which
  it was admitted.
* `Reached.check_eq_true_iff`: a check answers that a payload is a duplicate exactly when its digest
  outlasts the history and was admitted within the window.
-/

namespace EventRelay
namespace DuplicateCache

/-- The digests that were asked about later than one. -/
def ahead (digest : String) (cache : DuplicateCache) : List String :=
  (cache.entries.takeWhile (fun e => e.1 != digest)).map (·.1)

/-! ## What a write does to the place of another digest -/

private theorem find?_take {α : Type} (p : α → Bool) (l : List α) (n : Nat) :
    (l.take n).find? p = if (l.takeWhile (fun a => !p a)).length < n then l.find? p else none := by
  induction l generalizing n with
  | nil => simp only [List.take_nil, List.find?_nil, ite_self]
  | cons a l ih =>
    cases n with
    | zero => simp
    | succ n => by_cases h : p a <;> simp [h, ih]

private theorem find?_without {d e : String} (h : e ≠ d) (l : List (String × UInt64)) :
    (l.filter (fun x => x.1 != e)).find? (fun x => x.1 == d) = l.find? (fun x => x.1 == d) := by
  rw [List.find?_filter]
  congr 1
  funext x
  by_cases hx : x.1 = d
  · simp [hx, h.symm]
  · simp [hx]

private theorem takeWhile_without {d e : String} (h : e ≠ d) (l : List (String × UInt64)) :
    (l.filter (fun x => x.1 != e)).takeWhile (fun x => x.1 != d) =
      (l.takeWhile (fun x => x.1 != d)).filter (fun x => x.1 != e) := by
  rw [List.takeWhile_filter]
  congr 2
  funext x
  by_cases hx : x.1 = e
  · simp [hx, h]
  · simp [hx]

/-- Another digest keeps its time, unless so many stand in front of it now that it falls out. -/
theorem find?_put_of_ne {d e : String} (h : e ≠ d) (time : UInt64) (cache : DuplicateCache) :
    (cache.put e time).find? d =
      if (e :: (cache.ahead d).filter (· != e)).length < cache.capacity then cache.find? d
      else none := by
  have hc : ((e, time) :: cache.without e).find? (fun x => x.1 == d) =
      cache.entries.find? (fun x => x.1 == d) := by
    rw [List.find?_cons_of_neg (by simpa using h), without, find?_without h]
  have ha : (((e, time) :: cache.without e).takeWhile (fun x => !x.1 == d)).length =
      (e :: (cache.ahead d).filter (· != e)).length := by
    have hw := takeWhile_without h cache.entries
    simp only [bne] at hw
    rw [List.takeWhile_cons_of_pos (by simpa using h), without]
    simp only [bne, hw, ahead, List.length_cons, List.filter_map, List.length_map,
      Function.comp_def]
  simp only [find?, put, find?_take, ha, hc]
  split <;> rfl

/-- A write puts its digest in front of another. -/
theorem ahead_put_of_ne {d e : String} (h : e ≠ d) (time : UInt64) (cache : DuplicateCache) :
    (cache.put e time).ahead d =
      (e :: (cache.ahead d).filter (· != e)).take cache.capacity := by
  have hw := takeWhile_without h cache.entries
  simp only [ahead, put, without, ← List.take_takeWhile]
  rw [List.takeWhile_cons_of_pos (by simpa using h), hw, List.map_take, List.map_cons,
    List.filter_map]
  rfl

theorem ahead_put_self (digest : String) (time : UInt64) (cache : DuplicateCache)
    (h : 0 < cache.capacity) : (cache.put digest time).ahead digest = [] := by
  obtain ⟨n, hn⟩ : ∃ n, cache.capacity = n + 1 := ⟨cache.capacity - 1, by omega⟩
  simp [put, ahead, hn]

theorem find?_forget_of_ne {d e : String} (h : e ≠ d) (cache : DuplicateCache) :
    (cache.forget e).find? d = cache.find? d := by
  simp only [find?, forget, without, find?_without h]

theorem ahead_forget_of_ne {d e : String} (h : e ≠ d) (cache : DuplicateCache) :
    (cache.forget e).ahead d = (cache.ahead d).filter (· != e) := by
  simp only [ahead, forget, without, takeWhile_without h, List.filter_map]
  rfl

/-! ## No digest is held twice -/

/-- No digest is held twice. -/
def Distinct (cache : DuplicateCache) : Prop := (cache.entries.map (·.1)).Nodup

theorem Distinct.ahead {cache : DuplicateCache} (h : cache.Distinct) (digest : String) :
    (cache.ahead digest).Nodup :=
  h.sublist ((List.takeWhile_sublist _).map _)

theorem Distinct.forget {cache : DuplicateCache} (h : cache.Distinct) (digest : String) :
    (cache.forget digest).Distinct :=
  h.sublist (List.filter_sublist.map _)

theorem Distinct.put {cache : DuplicateCache} (h : cache.Distinct) (digest : String)
    (time : UInt64) : (cache.put digest time).Distinct := by
  have hn : (((digest, time) :: cache.without digest).map (·.1)).Nodup := by
    rw [List.map_cons, List.nodup_cons]
    refine ⟨?_, h.forget digest⟩
    simp [without]
  exact hn.sublist ((List.take_sublist _ _).map _)

/-! ## Histories -/

/-- Something that was done to a cache: a digest was checked at a time, with the answer, or it was
forgotten. -/
inductive Event where
  | checked (digest : String) (time : UInt64) (duplicate : Bool)
  | forgot (digest : String)
  deriving DecidableEq, Repr

/-- The caches that a history leads to from an empty one; the latest event stands first. -/
inductive Reached (windowMs : UInt64) (capacity : Nat) : List Event → DuplicateCache → Prop
  | new : Reached windowMs capacity [] (.new windowMs capacity)
  | check {past : List Event} {cache : DuplicateCache} (digest : String) (time : UInt64) :
      Reached windowMs capacity past cache →
      Reached windowMs capacity (.checked digest time (cache.check digest time).1 :: past)
        (cache.check digest time).2
  | forget {past : List Event} {cache : DuplicateCache} (digest : String) :
      Reached windowMs capacity past cache →
      Reached windowMs capacity (.forgot digest :: past) (cache.forget digest)

/-- The digests in front of one: those checked since its latest check, but for the forgotten. -/
def crowd (digest : String) : List Event → Finset String
  | [] => ∅
  | .checked other _ _ :: past => if other = digest then ∅ else insert other (crowd digest past)
  | .forgot other :: past => (crowd digest past).erase other

/-- A digest was checked, was not forgotten since, and was never crowded out of `capacity`
places. -/
def Outlasts (capacity : Nat) (digest : String) : List Event → Prop
  | [] => False
  | .checked other _ _ :: past =>
    other = digest ∨
      Outlasts capacity digest past ∧ (insert other (crowd digest past)).card < capacity
  | .forgot other :: past => other ≠ digest ∧ Outlasts capacity digest past

/-- When the payload of a digest was last let through. -/
def admitted (digest : String) : List Event → Option UInt64
  | [] => none
  | .checked other time false :: past =>
    if other = digest then some time else admitted digest past
  | .checked _ _ true :: past => admitted digest past
  | .forgot _ :: past => admitted digest past

/-! ## A history explains what is held -/

/-- The history accounts for the cache: a digest that outlasts the history is held with the time at
which it was admitted, behind its crowd, and no other digest is held. -/
structure Explains (past : List Event) (cache : DuplicateCache) : Prop where
  distinct : cache.Distinct
  held : ∀ d, Outlasts cache.capacity d past → ∃ t, admitted d past = some t ∧
    cache.find? d = some t ∧ (cache.ahead d).toFinset = crowd d past
  gone : ∀ d, ¬ Outlasts cache.capacity d past → cache.find? d = none

theorem explains_new (windowMs : UInt64) (capacity : Nat) :
    Explains [] (new windowMs capacity) where
  distinct := List.nodup_nil
  held _ h := h.elim
  gone _ _ := rfl

/-- The place behind which a digest stands once another was written counts its crowd. -/
private theorem length_crowd {past : List Event} {cache : DuplicateCache} {d : String}
    (hd : cache.Distinct) (hc : (cache.ahead d).toFinset = crowd d past) (e : String) :
    (e :: (cache.ahead d).filter (· != e)).length = (insert e (crowd d past)).card := by
  have hn : (e :: (cache.ahead d).filter (· != e)).Nodup := by
    rw [List.nodup_cons]
    exact ⟨by simp, (hd.ahead d).filter _⟩
  rw [← List.toFinset_card_of_nodup hn, ← hc]
  congr 1
  ext x
  by_cases hx : x = e <;> simp [hx]

/-- A check writes its digest with the time that the history then shows as its admission. -/
theorem Explains.put {past : List Event} {cache : DuplicateCache} (h : Explains past cache)
    (hpos : 0 < cache.capacity) {e : String} {now time : UInt64} {duplicate : Bool}
    (ht : admitted e (.checked e now duplicate :: past) = some time) :
    Explains (.checked e now duplicate :: past) (cache.put e time) where
  distinct := h.distinct.put e time
  held d hd := by
    by_cases he : e = d
    · subst he
      exact ⟨time, ht, find?_put_self _ _ _ hpos, by simp [ahead_put_self _ _ _ hpos, crowd]⟩
    · obtain ⟨hout, hlt⟩ := hd.resolve_left he
      obtain ⟨t, hat, hft, hct⟩ := h.held d hout
      have hlen := length_crowd h.distinct hct e
      have hroom : (e :: (cache.ahead d).filter (· != e)).length < cache.capacity := by
        rw [hlen]
        exact hlt
      refine ⟨t, ?_, ?_, ?_⟩
      · cases duplicate <;> simpa [admitted, he] using hat
      · rw [find?_put_of_ne he, if_pos hroom, hft]
      · rw [ahead_put_of_ne he, List.take_of_length_le (by omega)]
        simp only [crowd, if_neg he, ← hct]
        ext x
        by_cases hx : x = e <;> simp [hx]
  gone d hd := by
    have hd : ¬ (e = d ∨ Outlasts cache.capacity d past ∧
      (insert e (crowd d past)).card < cache.capacity) := hd
    rw [not_or] at hd
    obtain ⟨he, hd⟩ := hd
    rw [find?_put_of_ne he]
    by_cases hout : Outlasts cache.capacity d past
    · obtain ⟨t, -, -, hct⟩ := h.held d hout
      rw [length_crowd h.distinct hct, if_neg (fun hlt => hd ⟨hout, hlt⟩)]
    · simp [h.gone d hout]

theorem Explains.forget {past : List Event} {cache : DuplicateCache} (h : Explains past cache)
    (e : String) : Explains (.forgot e :: past) (cache.forget e) where
  distinct := h.distinct.forget e
  held d hd := by
    obtain ⟨he, hout⟩ := hd
    obtain ⟨t, hat, hft, hct⟩ := h.held d hout
    refine ⟨t, hat, by rw [find?_forget_of_ne he, hft], ?_⟩
    rw [ahead_forget_of_ne he, crowd, ← hct]
    ext x
    simp [and_comm]
  gone d hd := by
    by_cases he : e = d
    · subst he
      exact find?_forget_self e cache
    · rw [find?_forget_of_ne he]
      exact h.gone d (fun hout => hd ⟨he, hout⟩)

/-! ## The answer of a check -/

/-- What a check does, in the two cases that it knows. -/
theorem check_cases {cache : DuplicateCache} (hw : cache.windowMs ≠ 0) (d : String)
    (now : UInt64) :
    (∃ first, cache.find? d = some first ∧ cache.isWithin first now = true ∧
      cache.check d now = (true, cache.put d first)) ∨
    ((∀ first, cache.find? d = some first → cache.isWithin first now = false) ∧
      cache.check d now = (false, cache.put d now)) := by
  simp only [check, if_neg hw]
  cases hf : cache.find? d with
  | none => exact .inr ⟨by simp, rfl⟩
  | some first =>
    cases hi : cache.isWithin first now with
    | true => exact .inl ⟨first, rfl, hi, by simp [hi]⟩
    | false =>
      refine .inr ⟨fun _ h => ?_, by simp [hi]⟩
      obtain rfl := Option.some.inj h
      exact hi

/-- A check keeps the window and the number of places. -/
theorem check_keeps (cache : DuplicateCache) (d : String) (now : UInt64) :
    (cache.check d now).2.windowMs = cache.windowMs ∧
      (cache.check d now).2.capacity = cache.capacity := by
  by_cases hw : cache.windowMs = 0
  · simp [check, hw]
  · obtain ⟨first, -, -, hc⟩ | ⟨-, hc⟩ := check_cases hw d now <;> rw [hc] <;> exact ⟨rfl, rfl⟩

namespace Reached

variable {windowMs : UInt64} {capacity : Nat} {past : List Event} {cache : DuplicateCache}

theorem windowMs_eq (h : Reached windowMs capacity past cache) : cache.windowMs = windowMs := by
  induction h with
  | new => rfl
  | check d now _ ih => rw [(check_keeps _ d now).1, ih]
  | forget d _ ih => exact ih

theorem capacity_eq (h : Reached windowMs capacity past cache) : cache.capacity = capacity := by
  induction h with
  | new => rfl
  | check d now _ ih => rw [(check_keeps _ d now).2, ih]
  | forget d _ ih => exact ih

/-- **Contents.** A history accounts for the cache that it leads to. -/
theorem explains (h : Reached windowMs capacity past cache) (hw : windowMs ≠ 0)
    (hc : 0 < capacity) : Explains past cache := by
  induction h with
  | new => exact explains_new windowMs capacity
  | @check past cache d now h ih =>
    have hpos : 0 < cache.capacity := by rw [h.capacity_eq]; exact hc
    have hwin : cache.windowMs ≠ 0 := by rw [h.windowMs_eq]; exact hw
    obtain ⟨first, hf, -, he⟩ | ⟨-, he⟩ := check_cases hwin d now
    · rw [he]
      refine ih.put hpos ?_
      -- The digest is held, so the history shows since when.
      have hout : Outlasts cache.capacity d past := by
        by_contra hout
        rw [ih.gone d hout] at hf
        cases hf
      obtain ⟨t, hat, hft, -⟩ := ih.held d hout
      rw [hf] at hft
      rwa [← Option.some.inj hft] at hat
    · rw [he]
      exact ih.put hpos (by simp [admitted])
  | forget d _ ih => exact ih.forget d

/-- A digest is held exactly when it outlasts the history, and then since its admission. -/
theorem find?_eq_some_iff (h : Reached windowMs capacity past cache) (hw : windowMs ≠ 0)
    (hc : 0 < capacity) (d : String) (t : UInt64) :
    cache.find? d = some t ↔ Outlasts capacity d past ∧ admitted d past = some t := by
  have hex := h.explains hw hc
  rw [← h.capacity_eq]
  by_cases hout : Outlasts cache.capacity d past
  · obtain ⟨s, hs, hf, -⟩ := hex.held d hout
    rw [hf, hs]
    exact ⟨fun ht => ⟨hout, ht⟩, And.right⟩
  · rw [hex.gone d hout]
    exact ⟨by simp, fun ht => absurd ht.1 hout⟩

/-- **Answers.** A payload is a duplicate exactly when its digest outlasts the history and was
admitted within the window. -/
theorem check_eq_true_iff (h : Reached windowMs capacity past cache) (hw : windowMs ≠ 0)
    (hc : 0 < capacity) (d : String) (now : UInt64) :
    (cache.check d now).1 = true ↔ Outlasts capacity d past ∧ ∃ t, admitted d past = some t ∧
      now.toNat - t.toNat < min (windowMs.toNat * 1000000) (UInt64.size - 1) := by
  have hwin : cache.windowMs ≠ 0 := by rw [h.windowMs_eq]; exact hw
  have hiw : ∀ t, cache.isWithin t now = true ↔
      now.toNat - t.toNat < min (windowMs.toNat * 1000000) (UInt64.size - 1) := by
    intro t
    rw [isWithin, windowNanos, h.windowMs_eq, decide_eq_true_iff]
  obtain ⟨first, hf, hi, he⟩ | ⟨hno, he⟩ := check_cases hwin d now
  · rw [he]
    obtain ⟨hout, hat⟩ := (h.find?_eq_some_iff hw hc d first).1 hf
    exact ⟨fun _ => ⟨hout, first, hat, (hiw first).1 hi⟩, fun _ => rfl⟩
  · rw [he]
    refine ⟨fun hf => absurd hf Bool.false_ne_true, ?_⟩
    rintro ⟨hout, t, hat, hlt⟩
    have hf := (h.find?_eq_some_iff hw hc d t).2 ⟨hout, hat⟩
    have hi := (hiw t).2 hlt
    rw [hno t hf] at hi
    exact absurd hi Bool.false_ne_true

end Reached

end DuplicateCache
end EventRelay
