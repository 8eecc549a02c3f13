import EventRelay.Proofs.Realm.Downstream
import EventRelay.Proofs.Realm.Operations

/-!
# Abandoned work stays abandoned

To abandon a context is to abandon everything that was derived from it, then and later: a context
derived from an abandoned one starts abandoned, and no operation takes an abandonment back.

* `Realm.Reaching`: abandonment reaches all that was derived.
* `Realm.Ages`: contexts are only added, stay where they were derived from and stay abandoned.
* `isCancelled_cancel`: which contexts are abandoned with one.
* `ages_act`: realms age by the operations on their contexts. `reaching_after`: in a realm that was
  built by operations abandonment reaches all that was derived.
* `isCancelled_interrupt_of_mem`: the interrupts abandon what they name and all derived from it.
* `wait_stops`, `wait_abandoned_eq`: a wait of abandoned work, or of work that is abandoned during
  it, ends at once and takes no time.
* `Realm.Calm`: the steps around a piece of work are quiet, and realms age by them.
-/

namespace EventRelay
namespace Realm

variable {σ : Type}

/-- What the context at a place was derived from. -/
def lineage (r : Realm σ) (c : ContextId) : List ContextId := (r.context c).lineage

/-- Abandonment reaches all that was derived: whatever is derived from a context is derived from
what that one is derived from, and is abandoned with it. -/
structure Reaching (r : Realm σ) : Prop where
  lt_size : ∀ c < r.contexts.size, ∀ a ∈ r.lineage c, a < r.contexts.size
  subset : ∀ c < r.contexts.size, ∀ a ∈ r.lineage c, ∀ b ∈ r.lineage a, b ∈ r.lineage c
  reaches : ∀ c < r.contexts.size, ∀ a ∈ r.lineage c, r.isCancelled a = true →
    r.isCancelled c = true

/-- Contexts are only added, each stays derived from what it was derived from and stays abandoned,
and abandonment still reaches all that was derived. -/
structure Ages (r r' : Realm σ) : Prop where
  size_le : r.contexts.size ≤ r'.contexts.size
  lineage_eq : ∀ c < r.contexts.size, r'.lineage c = r.lineage c
  cancelled : ∀ c < r.contexts.size, r.isCancelled c = true → r'.isCancelled c = true
  reaching : r.Reaching → r'.Reaching

namespace Ages

variable {r r' r'' : Realm σ}

theorem refl (r : Realm σ) : Ages r r := ⟨Nat.le_refl _, fun _ _ => rfl, fun _ _ h => h, id⟩

theorem trans (h : Ages r r') (h' : Ages r' r'') : Ages r r'' where
  size_le := Nat.le_trans h.size_le h'.size_le
  lineage_eq c hc :=
    (h'.lineage_eq c (Nat.lt_of_lt_of_le hc h.size_le)).trans (h.lineage_eq c hc)
  cancelled c hc hcan :=
    h'.cancelled c (Nat.lt_of_lt_of_le hc h.size_le) (h.cancelled c hc hcan)
  reaching hr := h'.reaching (h.reaching hr)

/-- A realm with as many contexts ages if each stays derived from what it was derived from, stays
abandoned, and is abandoned with what it is derived from. -/
theorem of_size_eq (hsize : r'.contexts.size = r.contexts.size)
    (hlineage : ∀ c, r'.lineage c = r.lineage c)
    (hcancelled : ∀ c < r.contexts.size, r.isCancelled c = true → r'.isCancelled c = true)
    (hreaches : r.Reaching → ∀ c < r.contexts.size, ∀ a ∈ r.lineage c, r'.isCancelled a = true →
      r'.isCancelled c = true) : Ages r r' where
  size_le := Nat.le_of_eq hsize.symm
  lineage_eq c _ := hlineage c
  cancelled := hcancelled
  reaching hr := by
    refine ⟨?_, ?_, ?_⟩ <;> simp only [hsize, hlineage]
    · exact hr.lt_size
    · exact hr.subset
    · exact hreaches hr

/-- What leaves the contexts as they are. -/
theorem of_contexts_eq (h : r'.contexts = r.contexts) : Ages r r' := by
  have hctx : ∀ c, r'.context c = r.context c := fun c => by rw [context, h]; rfl
  refine .of_size_eq (by rw [h]) (fun c => by rw [lineage, hctx]; rfl) (fun c _ hc => ?_)
    (fun hr c hc a ha hcan => ?_)
  · rwa [isCancelled, hctx]
  · rw [isCancelled, hctx] at hcan ⊢
    exact hr.reaches c hc a ha hcan

end Ages

/-! ## Writes and new contexts -/

/-- A write to the bags of a context. -/
theorem update_ages (r : Realm σ) (d : ContextId) {f : Context → Context}
    (hl : ∀ x, (f x).lineage = x.lineage) (hc : ∀ x, (f x).cancelled = x.cancelled) :
    Ages r (r.update d f) := by
  have hlineage : ∀ c, (r.update d f).lineage c = r.lineage c :=
    fun c => r.update_congr Context.lineage hl d c
  have hcancelled : ∀ c, (r.update d f).isCancelled c = r.isCancelled c :=
    fun c => r.update_congr Context.cancelled hc d c
  refine .of_size_eq (by simp [update]) hlineage (fun c _ h => ?_) (fun hr c hlt a ha h => ?_)
  · rwa [hcancelled]
  · rw [hcancelled] at h ⊢
    exact hr.reaches c hlt a ha h

/-- A new context is derived from nothing, or from another and what that one is derived from, and
starts abandoned if that one is. -/
theorem add_ages (r : Realm σ) (x : Context)
    (hx : x.lineage = [] ∨ ∃ parent < r.contexts.size, x.lineage = parent :: r.lineage parent ∧
      x.cancelled = r.isCancelled parent) : Ages r (r.add x).2 := by
  have hsize : (r.add x).2.contexts.size = r.contexts.size + 1 := by simp [add]
  have hold : ∀ c < r.contexts.size, (r.add x).2.context c = r.context c :=
    fun c hc => context_add_of_lt r hc x
  have hnew : (r.add x).2.context r.contexts.size = x := context_add_self r x
  have hlineage : ∀ c < r.contexts.size, (r.add x).2.lineage c = r.lineage c := by
    intro c hc
    rw [lineage, hold c hc]
    rfl
  have hcancelled : ∀ c < r.contexts.size, (r.add x).2.isCancelled c = r.isCancelled c := by
    intro c hc
    rw [isCancelled, hold c hc]
    rfl
  refine ⟨by omega, hlineage, fun c hc h => by rwa [hcancelled c hc], fun hr => ?_⟩
  -- Of an old context nothing is different, and the new one is the child of an old one.
  have hborn : ∀ a ∈ (r.add x).2.lineage r.contexts.size, a < r.contexts.size ∧
      (∀ b ∈ r.lineage a, b ∈ (r.add x).2.lineage r.contexts.size) ∧
      (r.isCancelled a = true → (r.add x).2.isCancelled r.contexts.size = true) := by
    have hself : (r.add x).2.lineage r.contexts.size = x.lineage := by rw [lineage, hnew]
    have hcan : (r.add x).2.isCancelled r.contexts.size = x.cancelled := by rw [isCancelled, hnew]
    rw [hself, hcan]
    obtain hroot | ⟨parent, hp, hl, hc⟩ := hx
    · simp [hroot]
    · rw [hl, hc]
      intro a ha
      obtain rfl | ha := List.mem_cons.1 ha
      · exact ⟨hp, fun b hb => List.mem_cons_of_mem _ hb, id⟩
      · exact ⟨hr.lt_size parent hp a ha,
          fun b hb => List.mem_cons_of_mem _ (hr.subset parent hp a ha b hb),
          hr.reaches parent hp a ha⟩
  have hcases : ∀ c < (r.add x).2.contexts.size, c < r.contexts.size ∨ c = r.contexts.size :=
    fun c hc => by omega
  refine ⟨fun c hc a ha => ?_, fun c hc a ha b hb => ?_, fun c hc a ha h => ?_⟩
  · rw [hsize]
    obtain hlt | rfl := hcases c hc
    · rw [hlineage c hlt] at ha
      exact Nat.lt_succ_of_lt (hr.lt_size c hlt a ha)
    · exact Nat.lt_succ_of_lt (hborn a ha).1
  · obtain hlt | rfl := hcases c hc
    · rw [hlineage c hlt] at ha ⊢
      rw [hlineage a (hr.lt_size c hlt a ha)] at hb
      exact hr.subset c hlt a ha b hb
    · obtain ⟨hlt, hsub, -⟩ := hborn a ha
      rw [hlineage a hlt] at hb
      exact hsub b hb
  · obtain hlt | rfl := hcases c hc
    · rw [hlineage c hlt] at ha
      rw [hcancelled a (hr.lt_size c hlt a ha)] at h
      rw [hcancelled c hlt]
      exact hr.reaches c hlt a ha h
    · obtain ⟨hlt, -, hreach⟩ := hborn a ha
      rw [hcancelled a hlt] at h
      exact hreach h

theorem derive_ages (r : Realm σ) {parent : ContextId} (hp : parent < r.contexts.size) :
    Ages r (r.derive parent).2 := by
  obtain ⟨fresh, ids, he⟩ := r.derive_eq parent
  rw [he]
  have hids : Ages r { r with ids := ids } := .of_contexts_eq rfl
  exact hids.trans (add_ages { r with ids := ids } _ (.inr ⟨parent, hp, rfl, rfl⟩))

theorem told_ages (r : Realm σ) (call : ObserverCall) : Ages r (r.told call) :=
  .of_contexts_eq rfl

theorem emit_ages (r : Realm σ) (c : ContextId) (level : LogLevel) (message : String)
    (fields : Entries Json) : Ages r (r.emit c level message fields) := by
  unfold emit
  dsimp only
  split
  · exact .of_contexts_eq rfl
  · exact .refl r

theorem openSpan_ages (r : Realm σ) {parent : ContextId} (hp : parent < r.contexts.size)
    (name : String) (attributes : Attributes) :
    Ages r (r.openSpan parent name attributes).2 := by
  obtain ⟨s, hs, h⟩ := r.openSpan_cases parent name attributes
  have hages : Ages r s := by
    rw [hs]
    exact (r.derive_ages hp).trans (told_ages _ _)
  have hset : ∀ (r : Realm σ) c key value, Ages r (r.setValue c key value) :=
    fun r c key value => r.update_ages c (fun _ => rfl) (fun _ => rfl)
  obtain h | ⟨time, fields, h⟩ := h
  · rw [h]
    exact hages
  · rw [h]
    exact ((hages.trans (hset _ _ _ _)).trans (hset _ _ _ _)).trans (emit_ages _ _ _ _ _)

/-! ## Abandonment -/

theorem context_cancel (r : Realm σ) (d : ContextId) {c : ContextId} (hc : c < r.contexts.size) :
    (r.cancel d).context c =
      if c = d ∨ d ∈ r.lineage c then (r.context c).cancel else r.context c := by
  simp [context, cancel, Array.getD, hc, lineage]

/-- With a context those are abandoned that are derived from it. -/
theorem isCancelled_cancel (r : Realm σ) (d : ContextId) {c : ContextId}
    (hc : c < r.contexts.size) :
    (r.cancel d).isCancelled c = true ↔ (c = d ∨ d ∈ r.lineage c) ∨ r.isCancelled c = true := by
  rw [isCancelled, r.context_cancel d hc]
  by_cases h : c = d ∨ d ∈ r.lineage c
  · simp [h, Context.cancel]
  · simp [h, isCancelled]

theorem cancel_ages (r : Realm σ) (d : ContextId) : Ages r (r.cancel d) := by
  have hlineage : ∀ c, (r.cancel d).lineage c = r.lineage c := by
    intro c
    by_cases hc : c < r.contexts.size
    · rw [lineage, r.context_cancel d hc]
      split <;> rfl
    · simp [lineage, context, cancel, Array.getD, hc]
  refine .of_size_eq (by simp [cancel]) hlineage (fun c hc h => ?_) (fun hr c hc a ha h => ?_)
  · exact (r.isCancelled_cancel d hc).2 (.inr h)
  · have hlt := hr.lt_size c hc a ha
    refine (r.isCancelled_cancel d hc).2 ?_
    obtain (rfl | hd) | hcan := (r.isCancelled_cancel d hlt).1 h
    · exact .inl (.inr ha)
    · exact .inl (.inr (hr.subset c hc a ha d hd))
    · exact .inr (hr.reaches c hc a ha hcan)

/-- The interrupts abandon what they name and all that was derived from it. -/
theorem isCancelled_interrupt_of_mem {r : Realm σ} {a c : ContextId} (hc : c < r.contexts.size)
    (hac : c = a ∨ a ∈ r.lineage c) (ha : a ∈ r.interrupts) :
    r.interrupt.isCancelled c = true := by
  have hfold : ∀ (cs : List ContextId) (s : Realm σ), c < s.contexts.size →
      (c = a ∨ a ∈ s.lineage c) → (s.isCancelled c = true ∨ a ∈ cs) →
      (cs.foldl (fun s c => s.cancel c) s).isCancelled c = true := by
    intro cs
    induction cs with
    | nil =>
      rintro s - - (h | h)
      · exact h
      · cases h
    | cons d cs ih =>
      intro s hs hac h
      have hages := s.cancel_ages d
      refine ih (s.cancel d) (Nat.lt_of_lt_of_le hs hages.size_le) ?_ ?_
      · rwa [hages.lineage_eq c hs]
      · obtain h | h := h
        · exact .inl (hages.cancelled c hs h)
        · obtain rfl | h := List.mem_cons.1 h
          · exact .inl ((s.isCancelled_cancel a hs).2 (.inl hac))
          · exact .inr h
  exact hfold r.interrupts { r with interrupts := [] } hc hac (.inr ha)

/-! ## Operations -/

theorem measure_ages (r : Realm σ) (observer : Observer) (span : ContextId) (metric : String)
    (attributes : Attributes) (value : Int64) :
    Ages r (r.measure observer span metric attributes value) := by
  unfold measure
  dsimp only
  split
  · exact told_ages ..
  · exact (told_ages ..).trans (emit_ages ..)

theorem closeSpan_ages (r : Realm σ) (observer : Observer) (span : ContextId)
    (attributes : Attributes) (error : Option String) :
    Ages r (r.closeSpan observer span attributes error) := by
  unfold closeSpan
  dsimp only
  split
  · exact told_ages ..
  · split <;> exact (told_ages ..).trans (emit_ages ..)

/-- **One operation.** A realm ages by what is done to its contexts, if contexts are derived only
from those that there are. -/
theorem ages_act (op : Operation) (r : Realm σ)
    (hop : ∀ parent, op.parent? = some parent → parent < r.contexts.size) :
    Ages r (op.act r) := by
  cases op with
  | addRoot sink => exact r.add_ages _ (.inl rfl)
  | setId c id => exact r.update_ages c (fun _ => rfl) (fun _ => rfl)
  | setValue c name value => exact r.update_ages c (fun _ => rfl) (fun _ => rfl)
  | setLogValue c name value => exact r.update_ages c (fun _ => rfl) (fun _ => rfl)
  | setHandle c name handle => exact r.update_ages c (fun _ => rfl) (fun _ => rfl)
  | setLogging c enabled => exact r.update_ages c (fun _ => rfl) (fun _ => rfl)
  | derive parent => exact r.derive_ages (hop parent rfl)
  | openSpan parent name attributes => exact r.openSpan_ages (hop parent rfl) name attributes
  | measure span metric attributes value => exact r.measure_ages _ span metric attributes value
  | closeSpan span attributes error => exact r.closeSpan_ages _ span attributes error
  | emit c level message fields => exact r.emit_ages c level message fields
  | cancel c => exact r.cancel_ages c
  | advance d => exact .of_contexts_eq rfl

/-- **A run.** In a realm whose contexts were made by operations abandonment reaches all that was
derived, whatever else was done. -/
theorem reaching_after (ops : Nat → Operation) (r : Realm σ) (hr : r.contexts = #[]) (n : Nat)
    (hops : ∀ k < n, ∀ parent, (ops k).parent? = some parent →
      parent < (r.after ops k).contexts.size) : (r.after ops n).Reaching := by
  induction n with
  | zero =>
    have hnone : ∀ c, ¬ c < (r.after ops 0).contexts.size := by simp [after, hr]
    exact ⟨fun c hc => absurd hc (hnone c), fun c hc => absurd hc (hnone c),
      fun c hc => absurd hc (hnone c)⟩
  | succ n ih =>
    refine ((r.after ops n).ages_act (ops n) ?_).reaching ?_
    · exact hops n (Nat.lt_succ_self n)
    · exact ih fun k hk => hops k (Nat.lt_succ_of_lt hk)

/-! ## Waits -/

/-- A wait that is not completed moves no clock, is not kept among the sleeps and does not touch
what lies downstream. -/
theorem wait_abandoned_eq {r : Realm σ} {source : TimeSource} {c : ContextId} {d : Duration}
    (h : (r.wait source c d).1 = false) :
    (r.wait source c d).2.rests = r.rests ∧ (r.wait source c d).2.clock = r.clock ∧
      (r.wait source c d).2.downstream = r.downstream := by
  obtain ⟨r', rfl | rfl, ⟨-, hw⟩ | ⟨-, hw⟩⟩ := r.wait_cases source c d
  · rw [hw]
    exact ⟨rfl, rfl, rfl⟩
  · rw [hw] at h
    cases h
  · obtain ⟨contexts, hi⟩ := r.interrupt_shape
    rw [hw, hi]
    exact ⟨rfl, rfl, rfl⟩
  · rw [hw] at h
    cases h

/-- A completed wait on the shared clock moves it by its length and counts as a sleep. -/
theorem clock_wait {r : Realm σ} {c : ContextId} {d : Duration}
    (h : (r.wait .shared c d).1 = true) : (r.wait .shared c d).2.clock = r.clock.sleep d := by
  obtain ⟨r', rfl | rfl, ⟨-, hw⟩ | ⟨-, hw⟩⟩ := r.wait_cases .shared c d
  · rw [hw] at h
    cases h
  · rw [hw]
    rfl
  · rw [hw] at h
    cases h
  · obtain ⟨contexts, hi⟩ := r.interrupt_shape
    rw [hw, hi]
    rfl

theorem wait_ages (r : Realm σ) (source : TimeSource) (c : ContextId) (d : Duration) :
    Ages r (r.wait source c d).2 :=
  wait_lift .trans cancel_ages (fun _ _ _ _ _ => .of_contexts_eq rfl) r source c d

/-- A completed wait leaves its context in force. -/
theorem isCancelled_wait {r : Realm σ} {source : TimeSource} {c : ContextId} {d : Duration}
    (h : (r.wait source c d).1 = true) : (r.wait source c d).2.isCancelled c = false := by
  obtain ⟨r', -, ⟨-, hw⟩ | ⟨hc, hw⟩⟩ := r.wait_cases source c d
  · rw [hw] at h
    cases h
  · obtain ⟨clock, millis, hs⟩ := r'.sleep_eq source d
    rw [hw, hs]
    exact hc

/-- A wait ends at once if its context, or one that it was derived from, was abandoned before it or
is abandoned during it. -/
theorem wait_stops {r : Realm σ} (hr : r.Reaching) {source : TimeSource} {a c : ContextId}
    {d : Duration} (hc : c < r.contexts.size) (hac : c = a ∨ a ∈ r.lineage c)
    (h : r.isCancelled a = true ∨ a ∈ r.interrupts ∧ isInstant source d = false) :
    (r.wait source c d).1 = false := by
  obtain h | ⟨hmem, hslow⟩ := h
  · have hcan : r.isCancelled c = true := by
      obtain rfl | ha := hac
      · exact h
      · exact hr.reaches c hc a ha h
    rw [wait, if_pos hcan]
  · have hcan := isCancelled_interrupt_of_mem hc hac hmem
    rw [wait, hslow]
    split
    · rfl
    · simp [hcan]

/-! ## Calm -/

/-- A quiet step by which the realm ages. -/
structure Calm (r r' : Realm σ) : Prop extends Quiet r r', Ages r r'

namespace Calm

variable {r r' r'' : Realm σ}

theorem refl (r : Realm σ) : Calm r r := ⟨.refl r, (Ages.refl r).lineage_eq,
  (Ages.refl r).cancelled, id⟩

theorem of_quiet (hq : Quiet r r') (ha : Ages r r') : Calm r r' :=
  ⟨hq, ha.lineage_eq, ha.cancelled, ha.reaching⟩

theorem trans (h : Calm r r') (h' : Calm r' r'') : Calm r r'' :=
  .of_quiet (h.toQuiet.trans h'.toQuiet) (h.toAges.trans h'.toAges)

/-- A calm step is calm under another view of what lies downstream. -/
theorem mapDownstream {τ : Type} (f : σ → τ) (h : Calm r r') :
    Calm (r.mapDownstream f) (r'.mapDownstream f) where
  size_le := h.size_le
  handles_eq := h.handles_eq
  cancelled_eq := h.cancelled_eq
  clock_eq := h.clock_eq
  millis_eq := h.millis_eq
  rests_eq := h.rests_eq
  interrupts_eq := h.interrupts_eq
  checker_eq := h.checker_eq
  downstream_eq := congrArg f h.downstream_eq
  lineage_eq := h.lineage_eq
  cancelled := h.cancelled
  reaching hr := by
    have hr' := h.reaching ⟨hr.lt_size, hr.subset, hr.reaches⟩
    exact ⟨hr'.lt_size, hr'.subset, hr'.reaches⟩

end Calm

theorem setId_calm (r : Realm σ) (c : ContextId) (id : String) : Calm r (r.setId c id) :=
  .of_quiet (r.setId_quiet ..) (r.update_ages c (fun _ => rfl) (fun _ => rfl))

theorem setValue_calm (r : Realm σ) (c : ContextId) (name : String) (value : Json) :
    Calm r (r.setValue c name value) :=
  .of_quiet (r.setValue_quiet ..) (r.update_ages c (fun _ => rfl) (fun _ => rfl))

theorem setLogValue_calm (r : Realm σ) (c : ContextId) (name : String) (value : Json) :
    Calm r (r.setLogValue c name value) :=
  .of_quiet (r.setLogValue_quiet ..) (r.update_ages c (fun _ => rfl) (fun _ => rfl))

theorem log_calm (r : Realm σ) (c : ContextId) (level : LogLevel) (message : String)
    (fields : List (String × String)) : Calm r (r.log c level message fields) :=
  .of_quiet (r.log_quiet ..) (r.emit_ages ..)

theorem measure_calm (r : Realm σ) (observer : Observer) (span : ContextId) (metric : String)
    (attributes : Attributes) (value : Int64) :
    Calm r (r.measure observer span metric attributes value) :=
  .of_quiet (r.measure_quiet ..) (r.measure_ages ..)

theorem closeSpan_calm (r : Realm σ) (observer : Observer) (span : ContextId)
    (attributes : Attributes) (error : Option String) :
    Calm r (r.closeSpan observer span attributes error) :=
  .of_quiet (r.closeSpan_quiet ..) (r.closeSpan_ages ..)

end Realm
end EventRelay
