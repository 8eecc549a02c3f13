import Mathlib.Logic.Relation
import EventRelay.Proofs.Realm.Abandonment
import EventRelay.Proofs.Realm.Isolation

/-!
# Abandonment follows ancestry

A forest of contexts grows by operations: some make roots, some derive a context from another one.
A context is abandoned exactly if it, or one that it descends from, was abandoned by name, before or
after it was made.

* `Operation.subject?`, `Realm.Proper`: operations are done to contexts that there are.
* `Realm.MadeFrom`, `Realm.MadeAsRoot`: where contexts come from, told by the operations alone.
* `mem_lineage_iff`: a context knows exactly what it descends from.
* `born_act`, `isCancelled_act`: what one operation does to an abandonment.
* `Realm.Apart`: parents, siblings and the contexts of other roots are out of reach.
* `cancelled_iff_ancestor`: the abandonments of a run.
-/

namespace EventRelay
namespace Operation

/-- The context that an operation is done to. -/
def subject? : Operation → Option ContextId
  | .addRoot _ | .advance _ => none
  | .setId c _ | .setValue c _ _ | .setLogValue c _ _ | .setHandle c _ _ | .setLogging c _ => some c
  | .derive c | .openSpan c _ _ | .measure c _ _ _ | .closeSpan c _ _ => some c
  | .emit c _ _ _ | .cancel c => some c

/-- The context that one is derived from is the one that the operation is done to. -/
theorem subject?_of_parent? {op : Operation} {p : ContextId} (h : op.parent? = some p) :
    op.subject? = some p := by
  cases op <;> simp_all [parent?, subject?]

theorem makes_of_parent? {op : Operation} {p : ContextId} (h : op.parent? = some p) :
    op.makes = true := by
  cases op <;> simp_all [parent?, makes]

end Operation

namespace Realm

variable {σ : Type}

/-! ## One operation -/

/-- A context that is made from another one descends from it and from what that one descends from,
and is abandoned if that one is. One that is made as a root descends from nothing. -/
theorem born_act (op : Operation) (r : Realm σ) (hop : op.makes = true) :
    (op.act r).lineage r.contexts.size =
        (match op.parent? with
          | some p => p :: r.lineage p
          | none => []) ∧
      (op.act r).isCancelled r.contexts.size =
        (match op.parent? with
          | some p => r.isCancelled p
          | none => false) := by
  cases op with
  | addRoot sink =>
    have h : ((Operation.addRoot sink).act r).context r.contexts.size = .root sink :=
      context_add_self r (.root sink)
    simp [lineage, isCancelled, h, Operation.parent?, Context.root]
  | derive p =>
    obtain ⟨fresh, h⟩ := r.context_derive p
    have h : ((Operation.derive p).act r).context r.contexts.size =
        (r.context p).derived p fresh := h
    simp only [lineage, isCancelled, h, Operation.parent?]
    exact ⟨rfl, rfl⟩
  | openSpan p name attributes =>
    obtain ⟨-, fresh, values, h⟩ := r.context_openSpan p name attributes
    have h : ((Operation.openSpan p name attributes).act r).context r.contexts.size =
        { (r.context p).derived p fresh with values := values } := h
    simp only [lineage, isCancelled, h, Operation.parent?]
    exact ⟨rfl, rfl⟩
  | _ => cases hop

/-- A context that there is is abandoned by the operation that abandons it or one of those that it
was derived from, and by no other. -/
theorem isCancelled_act (op : Operation) (r : Realm σ) {c : ContextId}
    (hc : c < r.contexts.size) :
    (op.act r).isCancelled c = true ↔
      r.isCancelled c = true ∨ ∃ d, op = .cancel d ∧ (c = d ∨ d ∈ r.lineage c) := by
  have hsame : (∀ d, op ≠ .cancel d) → (op.act r).isCancelled c = r.isCancelled c →
      ((op.act r).isCancelled c = true ↔
        r.isCancelled c = true ∨ ∃ d, op = .cancel d ∧ (c = d ∨ d ∈ r.lineage c)) := by
    intro hne he
    rw [he]
    constructor
    · intro h
      exact .inl h
    · rintro (h | ⟨d, hd, -⟩)
      · exact h
      · exact absurd hd (hne d)
  have hupdate : ∀ (d : ContextId) (f : Context → Context), (∀ x, (f x).cancelled = x.cancelled) →
      (r.update d f).isCancelled c = r.isCancelled c :=
    fun d f hf => r.update_congr Context.cancelled hf d c
  cases op with
  | cancel d =>
    rw [show (Operation.cancel d).act r = r.cancel d from rfl, r.isCancelled_cancel d hc]
    constructor
    · rintro (h | h)
      · exact .inr ⟨d, rfl, h⟩
      · exact .inl h
    · rintro (h | ⟨d', hd, h⟩)
      · exact .inr h
      · cases hd
        exact .inl h
  | addRoot sink => exact hsame (by simp) ((r.add_quiet _).cancelled_eq c hc)
  | setId d id => exact hsame (by simp) (hupdate d _ fun _ => rfl)
  | setValue d name value => exact hsame (by simp) (hupdate d _ fun _ => rfl)
  | setLogValue d name value => exact hsame (by simp) (hupdate d _ fun _ => rfl)
  | setHandle d name handle => exact hsame (by simp) (hupdate d _ fun _ => rfl)
  | setLogging d enabled => exact hsame (by simp) (hupdate d _ fun _ => rfl)
  | derive p => exact hsame (by simp) ((r.derive_quiet p).cancelled_eq c hc)
  | openSpan p name attributes =>
    exact hsame (by simp) ((r.openSpan_quiet p name attributes).cancelled_eq c hc)
  | measure span metric attributes value =>
    exact hsame (by simp) ((r.measure_quiet _ span metric attributes value).cancelled_eq c hc)
  | closeSpan span attributes error =>
    exact hsame (by simp) ((r.closeSpan_quiet _ span attributes error).cancelled_eq c hc)
  | emit d level message fields =>
    exact hsame (by simp) ((r.emit_quiet d level message fields).cancelled_eq c hc)
  | advance d => exact hsame (by simp) rfl

/-! ## Where contexts come from -/

section Run

variable (ops : Nat → Operation) (r : Realm σ)

/-- Each of the first operations is done to a context that there is at the moment. -/
def Proper (n : Nat) : Prop :=
  ∀ k < n, ∀ c ∈ (ops k).subject?, c < (r.after ops k).contexts.size

instance (n : Nat) : Decidable (Proper ops r n) :=
  inferInstanceAs (Decidable (∀ k < n, ∀ c ∈ (ops k).subject?, _))

/-- A context was made from another one by one of the first operations. -/
def MadeFrom (n : Nat) (parent child : ContextId) : Prop :=
  ∃ j < n, (ops j).parent? = some parent ∧ (r.after ops j).contexts.size = child

/-- A context was made by one of the first operations, and from no other one. -/
def MadeAsRoot (n : Nat) (c : ContextId) : Prop :=
  ∃ j < n, (∃ sink, ops j = .addRoot sink) ∧ (r.after ops j).contexts.size = c

/-- A context is out of another one's reach: it is that one's parent or sibling, or belongs to
another root. -/
def Apart (n : Nat) (c d : ContextId) : Prop :=
  MadeFrom ops r n c d ∨
    (∃ p, MadeFrom ops r n p c ∧ MadeFrom ops r n p d ∧ c ≠ d) ∨
    ∃ a b, MadeAsRoot ops r n a ∧ MadeAsRoot ops r n b ∧ a ≠ b ∧
      Relation.ReflTransGen (MadeFrom ops r n) a c ∧ Relation.ReflTransGen (MadeFrom ops r n) b d

end Run

variable {ops : Nat → Operation} {r : Realm σ} {n : Nat} {a b c d p q : ContextId}

theorem Proper.mono {m : Nat} (h : Proper ops r n) (hm : m ≤ n) : Proper ops r m :=
  fun k hk => h k (Nat.lt_of_lt_of_le hk hm)

/-- Two operations that make contexts make different ones. -/
theorem makes_unique {i j : Nat} (hi : (ops i).makes = true) (hj : (ops j).makes = true)
    (h : (r.after ops i).contexts.size = (r.after ops j).contexts.size) : i = j := by
  have hgrows : ∀ {k l : Nat}, (ops k).makes = true → k < l →
      (r.after ops k).contexts.size < (r.after ops l).contexts.size := by
    intro k l hk hkl
    have hle := size_after_le ops r (Nat.succ_le_of_lt hkl)
    rw [after, size_act, hk, if_pos rfl] at hle
    omega
  rcases Nat.lt_trichotomy i j with hlt | rfl | hlt
  · have := hgrows hi hlt
    omega
  · rfl
  · have := hgrows hj hlt
    omega

namespace MadeFrom

theorem mono {m : Nat} (h : MadeFrom ops r m p c) (hm : m ≤ n) : MadeFrom ops r n p c := by
  obtain ⟨j, hj, hp, hc⟩ := h
  exact ⟨j, Nat.lt_of_lt_of_le hj hm, hp, hc⟩

/-- A context is made after its parent. -/
theorem lt (h : MadeFrom ops r n p c) (hproper : Proper ops r n) : p < c := by
  obtain ⟨j, hj, hp, rfl⟩ := h
  exact hproper j hj p (Operation.subject?_of_parent? hp)

/-- A context has one parent. -/
theorem unique (h : MadeFrom ops r n p c) (h' : MadeFrom ops r n q c) : p = q := by
  obtain ⟨i, -, hp, hi⟩ := h
  obtain ⟨j, -, hq, hj⟩ := h'
  have hij := makes_unique (Operation.makes_of_parent? hp) (Operation.makes_of_parent? hq)
    (hi.trans hj.symm)
  subst hij
  rw [hp] at hq
  exact Option.some.inj hq

/-- A root has no parent. -/
theorem not_root (h : MadeFrom ops r n p c) : ¬ MadeAsRoot ops r n c := by
  rintro ⟨j, -, ⟨sink, hroot⟩, hj⟩
  obtain ⟨i, -, hp, hi⟩ := h
  have hij := makes_unique (Operation.makes_of_parent? hp) (by rw [hroot]; rfl) (hi.trans hj.symm)
  subst hij
  rw [hroot] at hp
  cases hp

/-- The parent of a context that was there is known by then. -/
theorem of_succ (h : MadeFrom ops r (n + 1) p c) (hc : c < (r.after ops n).contexts.size) :
    MadeFrom ops r n p c := by
  obtain ⟨j, hj, hp, rfl⟩ := h
  rcases Nat.lt_succ_iff_lt_or_eq.1 hj with hlt | rfl
  · exact ⟨j, hlt, hp, rfl⟩
  · exact absurd hc (Nat.lt_irrefl _)

end MadeFrom

/-! ## Descent -/

/-- A context is made after what it descends from. -/
theorem le_of_descends (hproper : Proper ops r n)
    (h : Relation.ReflTransGen (MadeFrom ops r n) a c) : a ≤ c := by
  induction h with
  | refl => exact Nat.le_refl _
  | tail _ hbc ih => exact Nat.le_trans ih (Nat.le_of_lt (hbc.lt hproper))

/-- What a context descends from, apart from itself, its parent descends from. -/
theorem descends_iff_of_madeFrom (hp : MadeFrom ops r n p c) :
    Relation.ReflTransGen (MadeFrom ops r n) a c ↔
      a = c ∨ Relation.ReflTransGen (MadeFrom ops r n) a p := by
  constructor
  · intro h
    rcases h.cases_tail with rfl | ⟨b, hab, hbc⟩
    · exact .inl rfl
    · rw [hp.unique hbc]
      exact .inr hab
  · rintro (rfl | h)
    · exact .refl
    · exact h.tail hp

/-- A root descends from itself alone. -/
theorem descends_iff_of_root (hc : MadeAsRoot ops r n c) :
    Relation.ReflTransGen (MadeFrom ops r n) a c ↔ a = c := by
  constructor
  · intro h
    rcases h.cases_tail with rfl | ⟨b, -, hbc⟩
    · rfl
    · exact absurd hc hbc.not_root
  · rintro rfl
    exact .refl

/-- Later operations make no difference to what a context that is there descends from. -/
theorem descends_succ_iff (hproper : Proper ops r (n + 1))
    (hc : c < (r.after ops n).contexts.size) :
    Relation.ReflTransGen (MadeFrom ops r (n + 1)) a c ↔
      Relation.ReflTransGen (MadeFrom ops r n) a c := by
  constructor
  · intro h
    induction h with
    | refl => exact .refl
    | tail _ hbc ih =>
      have hb := Nat.lt_trans (hbc.lt hproper) hc
      exact (ih hb).tail (hbc.of_succ hc)
  · exact fun h => Relation.ReflTransGen.mono
      (fun _ _ (hbc : MadeFrom ops r n _ _) => hbc.mono (Nat.le_succ n)) _ _ h

/-- Where the context that an operation makes comes from. -/
theorem made_of_makes (hmakes : (ops n).makes = true) :
    (∃ p, (ops n).parent? = some p ∧ MadeFrom ops r (n + 1) p (r.after ops n).contexts.size) ∨
      (ops n).parent? = none ∧ MadeAsRoot ops r (n + 1) (r.after ops n).contexts.size := by
  have hlast := Nat.lt_succ_self n
  cases hop : ops n with
  | addRoot sink => exact .inr ⟨rfl, n, hlast, ⟨sink, hop⟩, rfl⟩
  | derive p => exact .inl ⟨p, rfl, n, hlast, by rw [hop]; rfl, rfl⟩
  | openSpan p name attributes => exact .inl ⟨p, rfl, n, hlast, by rw [hop]; rfl, rfl⟩
  | _ =>
    rw [hop] at hmakes
    cases hmakes

/-- The contexts after one more operation: those that there were, and the one that it makes. -/
theorem lt_size_succ (hc : c < (r.after ops (n + 1)).contexts.size) :
    c < (r.after ops n).contexts.size ∨
      c = (r.after ops n).contexts.size ∧ (ops n).makes = true := by
  rw [after, size_act] at hc
  cases hmakes : (ops n).makes with
  | false =>
    rw [hmakes] at hc
    exact .inl hc
  | true =>
    rw [hmakes, if_pos rfl] at hc
    exact (Nat.lt_succ_iff_lt_or_eq.1 hc).imp_right fun h => ⟨h, rfl⟩

/-- **Lineage.** A context knows exactly what it descends from. -/
theorem mem_lineage_iff (hr : r.contexts = #[]) (hproper : Proper ops r n)
    (hc : c < (r.after ops n).contexts.size) :
    (a = c ∨ a ∈ (r.after ops n).lineage c) ↔ Relation.ReflTransGen (MadeFrom ops r n) a c := by
  induction n generalizing a c with
  | zero => simp [after, hr] at hc
  | succ n ih =>
    have hproper' := hproper.mono (Nat.le_succ n)
    have hparent : ∀ p, (ops n).parent? = some p → p < (r.after ops n).contexts.size :=
      fun p hp => hproper n (Nat.lt_succ_self n) p (Operation.subject?_of_parent? hp)
    rcases lt_size_succ hc with hold | ⟨rfl, hmakes⟩
    · have hages := ages_act (ops n) (r.after ops n) hparent
      rw [descends_succ_iff hproper hold, ← ih hproper' hold, after, hages.lineage_eq c hold]
    · have hborn := (born_act (ops n) (r.after ops n) hmakes).1
      rcases made_of_makes (r := r) hmakes with ⟨p, hp, hmade⟩ | ⟨hnone, hroot⟩
      · rw [after, hborn, hp, descends_iff_of_madeFrom hmade,
          descends_succ_iff hproper (hparent p hp), ← ih hproper' (hparent p hp), List.mem_cons]
      · rw [after, hborn, hnone, descends_iff_of_root hroot]
        simp

/-- Neither a parent nor a sibling nor a context of another root descends from a context. -/
theorem Apart.not_descends (hproper : Proper ops r n) (h : Apart ops r n c d) :
    ¬ Relation.ReflTransGen (MadeFrom ops r n) d c := by
  intro hdc
  rcases h with hmade | ⟨p, hpc, hpd, hne⟩ | ⟨a, b, ha, hb, hne, hac, hbd⟩
  · exact Nat.not_lt.2 (le_of_descends hproper hdc) (hmade.lt hproper)
  · rcases (descends_iff_of_madeFrom hpc).1 hdc with rfl | hdp
    · exact hne rfl
    · exact Nat.not_lt.2 (le_of_descends hproper hdp) (hpd.lt hproper)
  · -- Of two contexts that a third one descends from, one descends from the other.
    have hbc := hbd.trans hdc
    have hchain : Relation.ReflTransGen (MadeFrom ops r n) a b ∨
        Relation.ReflTransGen (MadeFrom ops r n) b a := by
      have huniq : Relator.RightUnique (Function.swap (MadeFrom ops r n)) :=
        fun _ _ _ h h' => MadeFrom.unique h h'
      rcases Relation.ReflTransGen.total_of_right_unique huniq hac.swap hbc.swap with h | h
      · exact .inr h.swap
      · exact .inl h.swap
    rcases hchain with h | h
    · exact hne ((descends_iff_of_root hb).1 h)
    · exact hne ((descends_iff_of_root ha).1 h).symm

/-! ## Abandonment -/

/-- A context is abandoned exactly if it, or one of those that it was derived from, was abandoned by
one of the operations. -/
theorem isCancelled_after_iff (hr : r.contexts = #[]) (hproper : Proper ops r n)
    (hc : c < (r.after ops n).contexts.size) :
    (r.after ops n).isCancelled c = true ↔
      ∃ k < n, ∃ a, ops k = .cancel a ∧ (a = c ∨ a ∈ (r.after ops n).lineage c) := by
  induction n generalizing c with
  | zero => simp [after, hr] at hc
  | succ n ih =>
    have hproper' := hproper.mono (Nat.le_succ n)
    have hparent : ∀ p, (ops n).parent? = some p → p < (r.after ops n).contexts.size :=
      fun p hp => hproper n (Nat.lt_succ_self n) p (Operation.subject?_of_parent? hp)
    rcases lt_size_succ hc with hold | ⟨rfl, hmakes⟩
    · have hlineage := (ages_act (ops n) (r.after ops n) hparent).lineage_eq c hold
      rw [after, isCancelled_act (ops n) _ hold, ih hproper' hold, hlineage]
      constructor
      · rintro (⟨k, hk, a, ha, hac⟩ | ⟨d, hd, hdc⟩)
        · exact ⟨k, Nat.lt_succ_of_lt hk, a, ha, hac⟩
        · exact ⟨n, Nat.lt_succ_self n, d, hd, hdc.imp_left Eq.symm⟩
      · rintro ⟨k, hk, a, ha, hac⟩
        rcases Nat.lt_succ_iff_lt_or_eq.1 hk with hlt | rfl
        · exact .inl ⟨k, hlt, a, ha, hac⟩
        · exact .inr ⟨a, ha, hac.imp_left Eq.symm⟩
    · -- Nobody abandoned the new context yet, and the operation that made it abandoned none.
      have hnew : ∀ k < n + 1, ∀ a, ops k = .cancel a →
          k < n ∧ a ≠ (r.after ops n).contexts.size := by
        intro k hk a ha
        have hthere := hproper k hk a (by rw [ha]; rfl)
        have hle := size_after_le ops r (Nat.le_of_lt_succ hk)
        refine ⟨Nat.lt_of_le_of_ne (Nat.le_of_lt_succ hk) ?_,
          Nat.ne_of_lt (Nat.lt_of_lt_of_le hthere hle)⟩
        rintro rfl
        rw [ha] at hmakes
        cases hmakes
      obtain ⟨hlineage, hcancelled⟩ := born_act (ops n) (r.after ops n) hmakes
      rw [after, hcancelled, hlineage]
      cases hp : (ops n).parent? with
      | none =>
        simp only [List.not_mem_nil, or_false, Bool.false_eq_true, false_iff]
        rintro ⟨k, hk, a, ha, rfl⟩
        exact (hnew k hk _ ha).2 rfl
      | some p =>
        simp only [ih hproper' (hparent p hp), List.mem_cons]
        constructor
        · rintro ⟨k, hk, a, ha, hap⟩
          exact ⟨k, Nat.lt_succ_of_lt hk, a, ha, .inr hap⟩
        · rintro ⟨k, hk, a, ha, hac | hap⟩
          · exact absurd hac (hnew k hk a ha).2
          · exact ⟨k, (hnew k hk a ha).1, a, ha, hap⟩

/-- What is abandoned stays abandoned. -/
theorem isCancelled_after_of_le (hproper : Proper ops r n) {m : Nat} (hm : m ≤ n)
    (hc : c < (r.after ops m).contexts.size) (h : (r.after ops m).isCancelled c = true) :
    (r.after ops n).isCancelled c = true := by
  induction n, hm using Nat.le_induction with
  | base => exact h
  | succ n hm ih =>
    have hthere := Nat.lt_of_lt_of_le hc (size_after_le ops r hm)
    rw [after, isCancelled_act (ops n) _ hthere]
    exact .inl (ih (hproper.mono (Nat.le_succ n)))

/-- **Ancestry.** After any operations on any contexts, a context is abandoned exactly if one of the
operations abandoned it or a context that it descends from, before or after it was made. To abandon
a context reaches neither its parent nor its siblings nor the contexts of other roots, and is never
taken back. -/
theorem cancelled_iff_ancestor (ops : Nat → Operation) (r : Realm σ) (hr : r.contexts = #[])
    (n : Nat) (hproper : Proper ops r n) :
    (∀ c < (r.after ops n).contexts.size,
      ((r.after ops n).isCancelled c = true ↔ ∃ k < n, ∃ a, ops k = .cancel a ∧
        Relation.ReflTransGen (MadeFrom ops r n) a c)) ∧
    (∀ c < (r.after ops n).contexts.size, ∀ d, Apart ops r n c d →
      ((Operation.cancel d).act (r.after ops n)).isCancelled c =
        (r.after ops n).isCancelled c) ∧
    ∀ m ≤ n, ∀ c < (r.after ops m).contexts.size, (r.after ops m).isCancelled c = true →
      (r.after ops n).isCancelled c = true := by
  refine ⟨fun c hc => ?_, fun c hc d hapart => ?_, fun m hm c hc h => ?_⟩
  · rw [isCancelled_after_iff hr hproper hc]
    simp only [mem_lineage_iff hr hproper hc]
  · have hout : ¬ (d = c ∨ d ∈ (r.after ops n).lineage c) := by
      rw [mem_lineage_iff hr hproper hc]
      exact hapart.not_descends hproper
    rw [Bool.eq_iff_iff, isCancelled_act _ _ hc]
    constructor
    · rintro (h | ⟨e, he, hec⟩)
      · exact h
      · cases he
        exact absurd (hec.imp_left Eq.symm) hout
    · intro h
      exact .inl h
  · exact isCancelled_after_of_le hproper hm hc h

/-- A root with two contexts derived from it, of which the first is abandoned before a span starts
in it, and a second root. -/
def clan : Nat → Operation := fun i =>
  [.addRoot .console, .derive 0, .cancel 1, .openSpan 1 "work" [], .derive 0,
    .addRoot .console].getD i (.advance (.ofMillis 1))

theorem cancelled_iff_ancestor_clan :
    vacant.contexts = #[] ∧ Proper clan vacant 6 ∧
      (vacant.after clan 6).isCancelled 2 = true ∧
      ((Operation.cancel 1).act (vacant.after clan 6)).isCancelled 3 =
        (vacant.after clan 6).isCancelled 3 ∧
      ((Operation.cancel 4).act (vacant.after clan 6)).isCancelled 0 =
        (vacant.after clan 6).isCancelled 0 := by
  have hproper : Proper clan vacant 6 := by decide +kernel
  have hchild : MadeFrom clan vacant 6 0 1 := ⟨1, by decide, rfl, by decide +kernel⟩
  have hspan : MadeFrom clan vacant 6 1 2 := ⟨3, by decide, rfl, by decide +kernel⟩
  have hsibling : MadeFrom clan vacant 6 0 3 := ⟨4, by decide, rfl, by decide +kernel⟩
  have hroot : MadeAsRoot clan vacant 6 0 := ⟨0, by decide, ⟨_, rfl⟩, by decide +kernel⟩
  have hother : MadeAsRoot clan vacant 6 4 := ⟨5, by decide, ⟨_, rfl⟩, by decide +kernel⟩
  obtain ⟨hiff, hapart, -⟩ := cancelled_iff_ancestor clan vacant rfl 6 hproper
  refine ⟨rfl, hproper, ?_, ?_, ?_⟩
  · exact (hiff 2 (by decide +kernel)).2 ⟨2, by decide, 1, rfl, .single hspan⟩
  · exact hapart 3 (by decide +kernel) 1 (.inr (.inl ⟨0, hsibling, hchild, by decide⟩))
  · exact hapart 0 (by decide +kernel) 4
      (.inr (.inr ⟨0, 4, hroot, hother, by decide, .refl, .refl⟩))

end Realm
end EventRelay
