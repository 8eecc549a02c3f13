import Mathlib.Data.Nat.Init
import EventRelay.Context.Kind
import EventRelay.Proofs.Realm.Operations

/-!
# Contexts go their own way

Whatever is done to a forest of contexts, and in whatever order, each context reads what was last
written to it since it was made, and where nothing was written what it read when it was made. For a
derived context that is what its parent read at that moment.

* `exists_makes`: every context was made by one of the operations.
* `Realm.Explained`: the read of a slot is explained by the operations after one of them.
* `explained_after`: it is, after any number of operations.
* `reads_explained`: the reads of all contexts of a run, and that a write to one context changes no
  read of another.
-/

namespace EventRelay
namespace Realm

variable {σ : Type} (ops : Nat → Operation) (r : Realm σ)

/-- No operation loses a context. -/
theorem size_after_le {m n : Nat} (h : m ≤ n) :
    (r.after ops m).contexts.size ≤ (r.after ops n).contexts.size := by
  induction n, h using Nat.le_induction with
  | base => exact Nat.le_refl _
  | succ n _ ih =>
    rw [after, size_act]
    exact Nat.le_trans ih (Nat.le_add_right _ _)

/-- A context that was not there at first was made by one of the operations. -/
theorem exists_makes {n : Nat} {c : ContextId} (hr : r.contexts.size ≤ c)
    (hc : c < (r.after ops n).contexts.size) :
    ∃ j < n, (ops j).makes = true ∧ (r.after ops j).contexts.size = c := by
  induction n with
  | zero => exact absurd hc (Nat.not_lt.2 hr)
  | succ n ih =>
    by_cases hold : c < (r.after ops n).contexts.size
    · obtain ⟨j, hj, h⟩ := ih hold
      exact ⟨j, Nat.lt_succ_of_lt hj, h⟩
    · rw [after, size_act] at hc
      cases hmakes : (ops n).makes with
      | false =>
        rw [hmakes] at hc
        exact absurd hc hold
      | true =>
        rw [hmakes, if_pos rfl] at hc
        exact ⟨n, Nat.lt_succ_self n, hmakes,
          Nat.le_antisymm (Nat.not_lt.1 hold) (Nat.le_of_lt_succ hc)⟩

/-- What is read in a slot after `n` operations is the last of what the operations after the `j`-th
wrote there, and the first content if they wrote nothing there. -/
def Explained (j n : Nat) (c : ContextId) (slot : Slot) (first read : Option Content) : Prop :=
  (∃ i content, j < i ∧ i < n ∧ (ops i).writes? c slot = some content ∧
      (∀ k, i < k → k < n → (ops k).writes? c slot = none) ∧ read = some content) ∨
    (∀ k, j < k → k < n → (ops k).writes? c slot = none) ∧ read = first

/-- One more operation: what it writes is read, or else what was read before. -/
theorem Explained.succ {ops : Nat → Operation} {j n : Nat} {c : ContextId} {slot : Slot}
    {first read : Option Content} (hj : j < n) (h : Explained ops j n c slot first read) :
    Explained ops j (n + 1) c slot first (((ops n).writes? c slot).or read) := by
  cases hw : (ops n).writes? c slot with
  | some content =>
    exact .inl ⟨n, content, hj, Nat.lt_succ_self n, hw, fun k h₁ h₂ => by omega, rfl⟩
  | none =>
    have hlater : ∀ {i : Nat}, (∀ k, i < k → k < n → (ops k).writes? c slot = none) →
        ∀ k, i < k → k < n + 1 → (ops k).writes? c slot = none := by
      intro i hi k h₁ h₂
      obtain hk | rfl := Nat.lt_succ_iff_lt_or_eq.1 h₂
      · exact hi k h₁ hk
      · exact hw
    obtain ⟨i, content, hji, hin, hi, hnone, hread⟩ | ⟨hnone, hread⟩ := h
    · exact .inl ⟨i, content, hji, Nat.lt_succ_of_lt hin, hi, hlater hnone, hread⟩
    · exact .inr ⟨hlater hnone, hread⟩

/-- **A run.** The reads of a context that an operation made are explained by what it read at first
and the operations since. -/
theorem explained_after {j n : Nat} (hj : j < n) (hmakes : (ops j).makes = true) (slot : Slot) :
    Explained ops j n (r.after ops j).contexts.size slot
      ((ops j).atBirth? (r.after ops j) slot)
      ((r.after ops n).read? (r.after ops j).contexts.size slot) := by
  induction n, hj using Nat.le_induction with
  | base =>
    refine .inr ⟨fun k h₁ h₂ => by omega, ?_⟩
    exact read?_act_size (ops j) _ hmakes slot
  | succ n hj ih =>
    have hthere : (r.after ops j).contexts.size < (r.after ops n).contexts.size := by
      refine Nat.lt_of_lt_of_le ?_ (size_after_le ops r hj)
      rw [after, size_act, hmakes]
      exact Nat.lt_succ_self _
    rw [after, read?_act (ops n) _ hthere]
    exact ih.succ hj

/-- **Isolation.** After any operations on any contexts, each context was made by one of them. What
it reads was last written to it since, or else is what it read when it was made: what its parent
read at that moment, but for the correlation id and, in the context of a traced span, the start and
the name of the span. A handle is found by its kind exactly when the handle that is read is of that
kind. An operation that does not write to a context changes none of its reads. -/
theorem reads_explained (hr : r.contexts = #[]) (n : Nat) (c : ContextId)
    (hc : c < (r.after ops n).contexts.size) :
    (∃ j < n, (ops j).makes = true ∧ (r.after ops j).contexts.size = c ∧
      ∀ slot, Explained ops j n c slot ((ops j).atBirth? (r.after ops j) slot)
        ((r.after ops n).read? c slot)) ∧
    (∀ kind name, (((r.after ops n).context c).typed? kind name).isSome = true ↔
      ∃ handle, (r.after ops n).read? c (.handle name) = some (.handle handle) ∧
        handle.kind = kind) ∧
    ∀ op : Operation, op.writesTo? ≠ some c →
      ∀ slot, (op.act (r.after ops n)).read? c slot = (r.after ops n).read? c slot := by
  refine ⟨?_, fun kind name => ?_, fun op hop slot => ?_⟩
  · obtain ⟨j, hj, hmakes, rfl⟩ := exists_makes ops r (by simp [hr]) hc
    exact ⟨j, hj, hmakes, rfl, explained_after ops r hj hmakes⟩
  · rw [Context.isSome_typed?_iff]
    simp [read?, Context.read?, Option.map_eq_some_iff]
  · rw [read?_act op _ hc, Operation.writes?_eq_none hop, Option.none_or]

/-- A root whose spans are traced, a context derived from it, and a span of that one; the root is
written to once more before the span starts. -/
def household : Nat → Operation := fun i =>
  [.addRoot .console, .setHandle 0 Key.observer (.observer (.tracing .shared)),
    .setValue 0 "region" (.str "eu"), .derive 0, .setValue 0 "region" (.str "us"),
    .setLogging 1 false, .openSpan 1 "work" []].getD i (.advance (.ofMillis 1))

/-- A realm without contexts. -/
def vacant : Realm Unit := .start (.startingAt 0) (fun _ => 0) (fun _ => "") ()

theorem reads_explained_household :
    vacant.contexts = #[] ∧ 2 < (vacant.after household 7).contexts.size ∧
      (vacant.after household 7).read? 2 (.value "region") = some (.json (.str "eu")) ∧
      (vacant.after household 7).read? 2 .logging = some (.flag false) ∧
      (vacant.after household 7).read? 2 (.value Key.spanName) = some (.json (.str "work")) ∧
      ((Operation.setValue 1 "region" (.str "asia")).act (vacant.after household 7)).read? 2
        (.value "region") = some (.json (.str "eu")) := by
  have hread : (vacant.after household 7).read? 2 (.value "region") =
      some (.json (.str "eu")) := by decide +kernel
  have hthere : 2 < (vacant.after household 7).contexts.size := by decide +kernel
  refine ⟨rfl, hthere, hread, by decide +kernel, by decide +kernel, ?_⟩
  obtain ⟨-, -, hother⟩ := reads_explained household vacant rfl 7 2 hthere
  rw [hother (.setValue 1 "region" (.str "asia")) (by decide), hread]

end Realm
end EventRelay
