import EventRelay.Proofs.Realm.Seclusion

/-!
# What went before does not matter

Earlier work leaves contexts that nobody uses any more and records that nobody reads, and the
machine's timer has gone on in the meantime. A realm that is laden with such ballast is the same
realm but for the places of its later contexts, for where its journal begins and for what its timer
shows, and every step does in it what it does without. A deadline that goes on by as much as the
timer comes at the same step.

* `Ballast`: contexts after the first so many, records before all others, and a lead of the timer.
* `Realm.Coincide`, `Realm.Aligned`: realms that agree but for contexts and records.
* `Realm.Laden`: a realm and the same one with ballast. `Realm.Matches`: two results in such realms.
* `Laden.update`, `Laden.derive`, `Laden.cancel`: writes, new contexts and abandonment.
* `Laden.openSpan`, `Laden.measure`, `Laden.closeSpan`, `Laden.wait`, `Laden.isDuplicate`,
  `Laden.reportPanic`: the steps around a piece of work. `Laden.isLate_eq`: deadlines.
-/

namespace EventRelay

/-- What a realm has besides another: a number of contexts after the first so many, records before
all others, and a lead of the machine's timer in milliseconds. -/
structure Ballast where
  first : Nat
  count : Nat
  records : List (Sink × LogRecord)
  lead : Nat

namespace Ballast

variable (b : Ballast)

/-- Where a context stands once the ballast is there. -/
def place (c : Nat) : Nat := if c < b.first then c else c + b.count

theorem place_of_lt {c : Nat} (h : c < b.first) : b.place c = c := if_pos h

theorem place_of_le {c : Nat} (h : b.first ≤ c) : b.place c = c + b.count :=
  if_neg (Nat.not_lt.2 h)

/-- No two contexts are put at one place. -/
theorem place_inj {c d : Nat} : b.place c = b.place d ↔ c = d := by
  refine ⟨fun h => ?_, congrArg b.place⟩
  unfold place at h
  split at h <;> split at h <;> omega

end Ballast

/-- A context among the places that the ballast leaves. -/
def Context.placed (b : Ballast) (x : Context) : Context :=
  { x with lineage := x.lineage.map b.place }

namespace Realm

variable {σ τ : Type}

/-- Two realms with the same duplicate cache, the same clocks and the same state downstream. -/
structure Coincide (r s : Realm σ) : Prop where
  checker_eq : s.checker = r.checker
  clock_eq : s.clock = r.clock
  systemWall_eq : s.systemWall = r.systemWall
  downstream_eq : s.downstream = r.downstream

/-- Two such realms with the same ids and traces to come, and the same catches around them. -/
structure Aligned (r s : Realm σ) : Prop extends Coincide r s where
  ids_eq : s.ids = r.ids
  depth_eq : s.capture.depth = r.capture.depth
  trace_eq : s.capture.trace = r.capture.trace
  traces_eq : s.capture.traces = r.capture.traces
  taken_eq : s.capture.taken = r.capture.taken

/-- A realm, and the same one with ballast. Who was told of what, who slept and which panics were
not caught does not count. -/
structure Laden (b : Ballast) (r s : Realm σ) : Prop extends Aligned r s where
  first_le : b.first ≤ r.contexts.size
  size_eq : s.contexts.size = r.contexts.size + b.count
  context_eq : ∀ c, s.context (b.place c) = (r.context c).placed b
  journal_eq : s.journal.toList = b.records ++ r.journal.toList
  interrupts_eq : s.interrupts = r.interrupts.map b.place
  millis_eq : s.systemMillis = r.systemMillis + b.lead

/-- The same result in a realm and in the one with ballast. -/
def Matches {α : Type u} (b : Ballast) (x y : α × Realm σ) : Prop := y.1 = x.1 ∧ Laden b x.2 y.2

/-- The same new context in a realm and in the one with ballast. -/
def MatchesAt (b : Ballast) (x y : ContextId × Realm σ) : Prop :=
  y.1 = b.place x.1 ∧ Laden b x.2 y.2

/-! ## Contexts as functions of their place -/

theorem context_of_le (r : Realm σ) {c : ContextId} (h : r.contexts.size ≤ c) :
    r.context c = default := by
  simp [context, Array.getD, Nat.not_lt.2 h]

theorem context_update (r : Realm σ) (c d : ContextId) (f : Context → Context) :
    (r.update c f).context d =
      if d = c ∧ c < r.contexts.size then f (r.context d) else r.context d := by
  by_cases hd : d = c
  · subst hd
    by_cases hlt : d < r.contexts.size
    · rw [r.context_update_self hlt, if_pos ⟨rfl, hlt⟩]
    · rw [if_neg fun h => hlt h.2, context_of_le _ (by simpa [update] using hlt),
        context_of_le _ (Nat.le_of_not_lt hlt)]
  · rw [r.context_update_ne hd, if_neg fun h => hd h.1]

theorem context_add (r : Realm σ) (x : Context) (d : Nat) :
    (r.add x).2.context d = if d = r.contexts.size then x else r.context d := by
  by_cases hd : d = r.contexts.size
  · rw [if_pos hd, hd]
    exact r.context_add_self x
  · rw [if_neg hd]
    by_cases hlt : d < r.contexts.size
    · exact r.context_add_of_lt hlt x
    · have hle : r.contexts.size + 1 ≤ d := by omega
      rw [context_of_le _ (Nat.le_of_not_lt hlt), context_of_le _ (by simpa [add] using hle)]

theorem context_cancel_eq (r : Realm σ) (c d : ContextId) :
    (r.cancel c).context d =
      if d < r.contexts.size ∧ (d = c ∨ c ∈ (r.context d).lineage) then (r.context d).cancel
      else r.context d := by
  by_cases hlt : d < r.contexts.size
  · rw [r.context_cancel c hlt]
    by_cases h : d = c ∨ c ∈ r.lineage d
    · rw [if_pos h, if_pos ⟨hlt, h⟩]
    · rw [if_neg h, if_neg fun h' => h h'.2]
  · rw [if_neg fun h => hlt h.1, context_of_le _ (Nat.le_of_not_lt hlt),
      context_of_le _ (by simpa [cancel] using hlt)]

namespace Laden

variable {b : Ballast} {r s : Realm σ}

theorem place_size (h : Laden b r s) : b.place r.contexts.size = s.contexts.size := by
  rw [b.place_of_le h.first_le, h.size_eq]

theorem place_lt_iff (h : Laden b r s) {c : Nat} :
    b.place c < s.contexts.size ↔ c < r.contexts.size := by
  have hfirst := h.first_le
  rw [h.size_eq, Ballast.place]
  split <;> omega

theorem id_eq (h : Laden b r s) (c : ContextId) :
    (s.context (b.place c)).id = (r.context c).id := by
  rw [h.context_eq]
  rfl

/-- What lies downstream may be seen in another way. -/
theorem mapDownstream (h : Laden b r s) (f : σ → τ) :
    Laden b (r.mapDownstream f) (s.mapDownstream f) :=
  { h with downstream_eq := congrArg f h.downstream_eq }

/-! ## Writes, new contexts and abandonment -/

/-- A write that goes on as before when contexts change their places. -/
theorem update (h : Laden b r s) (c : ContextId) {f : Context → Context}
    (hf : ∀ x : Context, f (x.placed b) = (f x).placed b) :
    Laden b (r.update c f) (s.update (b.place c) f) :=
  { h with
    first_le := by simpa [Realm.update] using h.first_le
    size_eq := by simpa [Realm.update] using h.size_eq
    context_eq := fun d => by
      simp only [context_update, b.place_inj, h.place_lt_iff, h.context_eq, hf]
      split <;> rfl }

theorem setId (h : Laden b r s) (c : ContextId) (id : String) :
    Laden b (r.setId c id) (s.setId (b.place c) id) := h.update c fun _ => rfl

theorem setValue (h : Laden b r s) (c : ContextId) (name : String) (value : Json) :
    Laden b (r.setValue c name value) (s.setValue (b.place c) name value) :=
  h.update c fun _ => rfl

theorem setLogValue (h : Laden b r s) (c : ContextId) (name : String) (value : Json) :
    Laden b (r.setLogValue c name value) (s.setLogValue (b.place c) name value) :=
  h.update c fun _ => rfl

theorem add (h : Laden b r s) (x : Context) :
    MatchesAt b (r.add x) (s.add (x.placed b)) := by
  refine ⟨h.place_size.symm, { h with
    first_le := ?_
    size_eq := ?_
    context_eq := fun d => ?_ }⟩
  · simpa [Realm.add] using Nat.le_succ_of_le h.first_le
  · simp only [Realm.add, Array.size_push, h.size_eq]
    omega
  · rw [context_add, context_add, ← h.place_size, h.context_eq]
    simp only [b.place_inj]
    split <;> rfl

theorem derive (h : Laden b r s) (parent : ContextId) :
    MatchesAt b (r.derive parent) (s.derive (b.place parent)) := by
  have hadd : ∀ (ids : Uuid.Supply) (fresh : String),
      MatchesAt b ({ r with ids := ids }.add ((r.context parent).derived parent fresh))
        ({ s with ids := ids }.add ((s.context (b.place parent)).derived (b.place parent)
          fresh)) := by
    intro ids fresh
    have hids : Laden b { r with ids := ids } { s with ids := ids } := { h with ids_eq := rfl }
    rw [h.context_eq]
    exact hids.add _
  unfold Realm.derive
  dsimp only
  rw [h.id_eq, h.ids_eq]
  split
  · exact hadd _ _
  · rw [h.context_eq]
    exact h.add _

theorem cancel (h : Laden b r s) (c : ContextId) :
    Laden b (r.cancel c) (s.cancel (b.place c)) := by
  refine { h with first_le := ?_, size_eq := ?_, context_eq := fun d => ?_ }
  · simpa [Realm.cancel] using h.first_le
  · simpa [Realm.cancel] using h.size_eq
  · have hmem : b.place c ∈ ((r.context d).placed b).lineage ↔ c ∈ (r.context d).lineage := by
      simp [Context.placed, b.place_inj]
    rw [context_cancel_eq, context_cancel_eq, h.context_eq]
    simp only [b.place_inj, h.place_lt_iff, hmem]
    split <;> rfl

/-! ## Records, observers and spans -/

theorem emit (h : Laden b r s) (c : ContextId) (level : LogLevel) (message : String)
    (fields : Entries Json) :
    Laden b (r.emit c level message fields) (s.emit (b.place c) level message fields) := by
  unfold Realm.emit
  dsimp only
  rw [h.context_eq]
  by_cases hlogs : (r.context c).logging = true
  · rw [if_pos hlogs, if_pos (show ((r.context c).placed b).logging = true from hlogs)]
    exact { h with journal_eq := by simp [h.journal_eq, Context.placed] }
  · rw [if_neg hlogs, if_neg (show ¬ ((r.context c).placed b).logging = true from hlogs)]
    exact h

theorem log (h : Laden b r s) (c : ContextId) (level : LogLevel) (message : String)
    (fields : List (String × String)) :
    Laden b (r.log c level message fields) (s.log (b.place c) level message fields) :=
  h.emit c level message _

/-- What observers are told does not count. -/
theorem told (h : Laden b r s) (call call' : ObserverCall) :
    Laden b (r.told call) (s.told call') := { h with }

theorem observerOf_eq (h : Laden b r s) (c : ContextId) :
    s.observerOf (b.place c) = r.observerOf c := by
  rw [observerOf, h.context_eq]
  rfl

theorem wallTime_eq (h : Laden b r s) (source : TimeSource) :
    s.wallTime source = r.wallTime source := by
  cases source with
  | shared => exact congrArg Clock.wall h.clock_eq
  | system => exact h.systemWall_eq

theorem millisSince_eq (h : Laden b r s) (source : TimeSource) (earlier : UInt64) :
    s.millisSince source earlier = r.millisSince source earlier := by
  cases source with
  | shared => exact congrArg (fun clock => clock.millisSince earlier) h.clock_eq
  | system => rfl

theorem openSpan (h : Laden b r s) (parent : ContextId) (name : String)
    (attributes : Attributes) :
    MatchesAt b (r.openSpan parent name attributes)
      (s.openSpan (b.place parent) name attributes) := by
  obtain ⟨hspan, hborn⟩ := h.derive parent
  unfold Realm.openSpan
  dsimp only
  rw [h.observerOf_eq, hspan]
  generalize r.derive parent = born at hborn ⊢
  generalize s.derive (b.place parent) = born' at hborn ⊢
  cases r.observerOf parent with
  | inert => exact ⟨rfl, hborn.told _ _⟩
  | tracing time =>
    have htold := hborn.told (.started parent born.1 name attributes)
      (.started (b.place parent) (b.place born.1) name attributes)
    refine ⟨rfl, ?_⟩
    dsimp only
    rw [htold.wallTime_eq]
    exact ((htold.setValue _ _ _).setValue _ _ _).emit _ _ _ _

theorem measure (h : Laden b r s) (observer : Observer) (span : ContextId) (metric : String)
    (attributes : Attributes) (value : Int64) :
    Laden b (r.measure observer span metric attributes value)
      (s.measure observer (b.place span) metric attributes value) := by
  cases observer with
  | inert => exact h.told _ _
  | tracing time => exact (h.told _ _).emit _ _ _ _

/-- The end of a span shows the same. -/
theorem spanFields_eq (h : Laden b r s) (time : TimeSource) (span : ContextId)
    (fields : Entries Json) :
    s.spanFields time (b.place span) fields = r.spanFields time span fields := by
  unfold spanFields
  rw [h.context_eq, h.wallTime_eq]
  rfl

theorem closeSpan (h : Laden b r s) (observer : Observer) (span : ContextId)
    (attributes : Attributes) (error : Option String) :
    Laden b (r.closeSpan observer span attributes error)
      (s.closeSpan observer (b.place span) attributes error) := by
  have htold := h.told (.ended span attributes error) (.ended (b.place span) attributes error)
  unfold Realm.closeSpan
  dsimp only
  cases observer with
  | inert => exact htold
  | tracing time =>
    dsimp only
    rw [htold.spanFields_eq]
    cases error <;> exact htold.emit _ _ _ _

/-! ## Waits -/

theorem interrupt (h : Laden b r s) : Laden b r.interrupt s.interrupt := by
  have hfold : ∀ (cs : List ContextId) {r s : Realm σ}, Laden b r s →
      Laden b (cs.foldl (fun r c => r.cancel c) r)
        ((cs.map b.place).foldl (fun s c => s.cancel c) s) := by
    intro cs
    induction cs with
    | nil => exact fun h => h
    | cons c cs ih => exact fun h => ih (h.cancel c)
  unfold Realm.interrupt
  rw [h.interrupts_eq]
  exact hfold r.interrupts { h with interrupts_eq := rfl }

/-- Time passes on the machine's timer; the sleeps so far do not count. -/
theorem rested (h : Laden b r s) (millis : Nat) (rests rests' : Array Duration) :
    Laden b { r with systemMillis := r.systemMillis + millis, rests := rests }
      { s with systemMillis := s.systemMillis + millis, rests := rests' } :=
  { h with millis_eq := by rw [h.millis_eq, Nat.add_right_comm] }

theorem sleep (h : Laden b r s) (source : TimeSource) (d : Duration) :
    Laden b (r.sleep source d) (s.sleep source d) := by
  cases source with
  | shared => exact { h with clock_eq := congrArg (fun clock => clock.sleep d) h.clock_eq }
  | system => exact h.rested _ _ _

/-- A deadline that goes on by as much as the machine's timer has come if it has come without. -/
theorem isLate_eq (h : Laden b r s) (deadline : Option Nat) :
    s.isLate (deadline.map (· + b.lead)) = r.isLate deadline := by
  cases deadline with
  | none => rfl
  | some deadline => simp [isLate, h.millis_eq]

theorem isCancelled_eq (h : Laden b r s) (c : ContextId) :
    s.isCancelled (b.place c) = r.isCancelled c := by
  rw [isCancelled, h.context_eq]
  rfl

theorem wait (h : Laden b r s) (source : TimeSource) (c : ContextId) (d : Duration) :
    Matches b (r.wait source c d) (s.wait source (b.place c) d) := by
  have hwoken : Laden b (if isInstant source d then r else r.interrupt)
      (if isInstant source d then s else s.interrupt) := by
    split
    · exact h
    · exact h.interrupt
  unfold Realm.wait
  rw [h.isCancelled_eq]
  by_cases hc : r.isCancelled c = true
  · rw [if_pos hc, if_pos hc]
    exact ⟨rfl, h⟩
  · rw [if_neg hc, if_neg hc]
    generalize (if isInstant source d then r else r.interrupt) = r' at hwoken ⊢
    generalize (if isInstant source d then s else s.interrupt) = s' at hwoken ⊢
    dsimp only
    rw [hwoken.isCancelled_eq]
    split
    · exact ⟨rfl, hwoken⟩
    · exact ⟨rfl, hwoken.sleep source d⟩

/-! ## Questions to the cache -/

theorem hasChecker_eq (h : Laden b r s) (c : ContextId) :
    (s.context (b.place c)).hasChecker = (r.context c).hasChecker := by
  rw [h.context_eq]
  rfl

theorem isDuplicate (h : Laden b r s) (c : ContextId) (payload : ByteArray) :
    Matches b (r.isDuplicate c payload) (s.isDuplicate (b.place c) payload) := by
  unfold Realm.isDuplicate
  rw [h.checker_eq]
  cases r.checker with
  | none => exact ⟨rfl, h⟩
  | some cache =>
    dsimp only
    rw [h.hasChecker_eq, congrArg Clock.wall h.clock_eq]
    split
    · exact ⟨rfl, { h with clock_eq := h.clock_eq, checker_eq := rfl }⟩
    · exact ⟨rfl, h⟩

theorem forget (h : Laden b r s) (c : ContextId) (payload : ByteArray) :
    Laden b (r.forget c payload) (s.forget (b.place c) payload) := by
  unfold Realm.forget
  rw [h.checker_eq]
  cases r.checker with
  | none => exact h
  | some cache =>
    dsimp only
    rw [h.hasChecker_eq]
    split
    · exact { h with checker_eq := rfl }
    · exact h

/-! ## Catches -/

theorem enter (h : Laden b r s) : Laden b r.enter s.enter :=
  { h with depth_eq := congrArg (· + 1) h.depth_eq, trace_eq := rfl }

theorem leave (h : Laden b r s) : Laden b r.leave s.leave :=
  { h with depth_eq := congrArg (· - 1) h.depth_eq }

theorem raise (h : Laden b r s) (payload : Payload) :
    Laden b (r.raise payload) (s.raise payload) := by
  unfold Realm.raise
  dsimp only
  by_cases hcaught : 0 < r.capture.depth
  · rw [if_pos hcaught, if_pos (h.depth_eq ▸ hcaught)]
    refine { h with trace_eq := ?_, taken_eq := congrArg (· + 1) h.taken_eq }
    dsimp only
    rw [h.traces_eq, h.taken_eq]
  · rw [if_neg hcaught, if_neg (h.depth_eq ▸ hcaught)]
    exact { h with }

theorem reportPanic (h : Laden b r s) (c : ContextId) (payload : Payload) :
    Laden b (r.reportPanic c payload) (s.reportPanic (b.place c) payload) := by
  have htrace := h.trace_eq
  cases ht : r.capture.trace with
  | none =>
    have htaken : Laden b r.takeTrace.2 s.takeTrace.2 :=
      { h with taken_eq := congrArg (· + 1) h.taken_eq }
    have hsame : s.takeTrace.1 = r.takeTrace.1 := by
      simp only [takeTrace, h.traces_eq, h.taken_eq]
    rw [ht] at htrace
    simp only [Realm.reportPanic, ht, htrace, hsame]
    exact htaken.log c _ _ _
  | some trace =>
    have htaken : Laden b { r with capture := { r.capture with trace := none } }
        { s with capture := { s.capture with trace := none } } := { h with trace_eq := rfl }
    rw [ht] at htrace
    simp only [Realm.reportPanic, ht, htrace]
    exact htaken.log c _ _ _

/-- Work under a catch comes out the same if it would without one. -/
theorem contain {α : Type u} (c : ContextId)
    {work work' : Realm σ → Outcome α × Realm σ}
    (hwork : Matches b (work r.enter) (work' s.enter)) :
    Matches b (r.contain c work) (s.contain (b.place c) work') := by
  unfold Realm.contain
  dsimp only
  generalize work r.enter = done at hwork ⊢
  generalize work' s.enter = done' at hwork ⊢
  obtain ⟨outcome, r'⟩ := done
  obtain ⟨outcome', s'⟩ := done'
  obtain ⟨rfl, hleft⟩ := hwork
  cases outcome' with
  | returned a => exact ⟨rfl, hleft.leave⟩
  | panicked payload => exact ⟨rfl, hleft.leave.reportPanic c payload⟩
  | hung => exact ⟨rfl, hleft.leave⟩

end Laden

/-! ## Where ballast comes from -/

/-- What work from one realm to another leaves behind: the contexts that it made, and all records
and the whole time of the machine's timer so far. -/
def leftBehind (r s : Realm σ) : Ballast :=
  ⟨r.contexts.size, s.contexts.size - r.contexts.size, s.journal.toList, s.systemMillis⟩

/-- After work that left the first contexts alone a realm is laden with what was left behind, beside
one that has the first contexts alone, no record and a timer at its start, and is otherwise the
same. -/
theorem Untouched.laden {r q s : Realm σ} (h : Untouched r.contexts.size r s)
    (hr : r.Closed r.contexts.size) (hs : s.interrupts = []) (hcontexts : q.contexts = r.contexts)
    (hjournal : q.journal = #[]) (hq : q.interrupts = []) (hmillis : q.systemMillis = 0)
    (haligned : Aligned q s) : Laden (leftBehind r s) q s := by
  have hsize := h.size_le
  have hcount : (leftBehind r s).count = s.contexts.size - r.contexts.size := rfl
  refine { haligned with
    first_le := Nat.le_of_eq (by rw [hcontexts]; rfl)
    size_eq := by rw [hcontexts]; omega
    context_eq := fun c => ?_
    journal_eq := by rw [hjournal, leftBehind]; simp
    interrupts_eq := by rw [hs, hq]; rfl
    millis_eq := by rw [hmillis, leftBehind, Nat.zero_add] }
  have hcontext : q.context c = r.context c := by
    rw [context, hcontexts]
    rfl
  rw [hcontext]
  by_cases hc : c < r.contexts.size
  · have hlineage : (r.context c).lineage.map (leftBehind r s).place = (r.context c).lineage :=
      calc (r.context c).lineage.map (leftBehind r s).place
          = (r.context c).lineage.map id :=
            List.map_congr_left fun a ha => Ballast.place_of_lt _ (hr c hc a ha)
        _ = (r.context c).lineage := List.map_id _
    rw [Ballast.place_of_lt _ hc, h.context_eq c hc, Context.placed, hlineage]
  · have hle := Nat.le_of_not_lt hc
    rw [Ballast.place_of_le _ hle, r.context_of_le hle, s.context_of_le (by omega)]
    rfl

end Realm
end EventRelay
