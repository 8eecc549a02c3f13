import EventRelay.Proofs.Realm.Ancestry

/-!
# The correlation id among the log values

A context has its correlation id twice: as its id, and among its log values, from where every record
takes it. Whatever is done to a forest of contexts, the two agree in each context that was ever
given an id, unless somebody wrote over the log value since.

* `Context.InStep`: the two agree.
* `Realm.issuedId`: the id that a derived context is given; `inStep_act_size`: it is in step from
  its birth on.
* `inStep_act`: one operation keeps a context in step unless it writes over the log value.
* `Operation.draft?`: what an operation has to say, and through which context. `journal_act`: the
  record that it leaves.
* `traceId_follows_id`: contexts and records of a run.
-/

namespace EventRelay

theorem sorted_textFields (pairs : List (String × String)) : (textFields pairs).Sorted :=
  Entries.sorted_ofList _

/-! ## Contexts in step -/

namespace Context

/-- The correlation id stands among the log values. -/
def InStep (c : Context) : Prop := c.logValue? Key.traceId = some (.str c.id)

instance (c : Context) : Decidable c.InStep :=
  inferInstanceAs (Decidable (c.logValue? Key.traceId = _))

theorem inStep_setId (id : String) (c : Context) : (c.setId id).InStep := c.logValue?_setId id

theorem inStep_derived (parent : Nat) (fresh : String) (c : Context) :
    (c.derived parent fresh).InStep := c.logValue?_setId _

theorem inStep_setLogValue_of_ne {name : String} (h : name ≠ Key.traceId) (value : Json)
    {c : Context} (hc : c.InStep) : (c.setLogValue name value).InStep := by
  unfold InStep at hc ⊢
  rw [← show c.logValue? Key.traceId = (c.setLogValue name value).logValue? Key.traceId from
    (Entries.find?_insert_of_ne h.symm value c.logValues).symm, hc]
  rfl

end Context

namespace Operation

/-- Whether an operation writes over the correlation id among the log values of a context. -/
def Overwrites (c : ContextId) (op : Operation) : Prop :=
  ∃ value, op = .setLogValue c Key.traceId value

/-- What an operation has to say, and through which context: a record without the log values of that
context. -/
def draft? {σ : Type} (r : Realm σ) : Operation → Option (ContextId × LogRecord)
  | .openSpan parent name attributes =>
    match r.observerOf parent with
    | .inert => none
    | .tracing _ => some (r.contexts.size,
        ⟨.debug, "span started", (textFields attributes).insert "span" (.str name)⟩)
  | .measure span metric attributes value =>
    match r.observerOf span with
    | .inert => none
    | .tracing _ => some (span, ⟨.info, "metric recorded",
        ((textFields attributes).insert "metric" (.str metric)).insert "value"
          (.num (.ofInt64 value))⟩)
  | .closeSpan span attributes error =>
    match r.observerOf span, error with
    | .inert, _ => none
    | .tracing time, some text => some (span, ⟨.warn, "span ended with error",
        (r.spanFields time span (textFields attributes)).insert "error" (.str text)⟩)
    | .tracing time, none => some (span, ⟨.debug, "span ended",
        r.spanFields time span (textFields attributes)⟩)
  | .emit c level message fields => some (c, ⟨level, message, fields⟩)
  | _ => none

end Operation

namespace Realm

variable {σ : Type}

/-! ## Births -/

/-- The correlation id that a context derived now from the one at a place is given: that one's own,
or a fresh one if that one has none. -/
def issuedId (r : Realm σ) (parent : ContextId) : String :=
  if (r.context parent).id.isEmpty then r.ids.mint.1 else (r.context parent).id

theorem isVersion4_issuedId {r : Realm σ} {parent : ContextId}
    (h : (r.context parent).id.isEmpty = true) : Uuid.isVersion4 (r.issuedId parent) = true := by
  rw [issuedId, if_pos h]
  exact Uuid.isVersion4_mint r.ids

theorem issuedId_ne_empty (r : Realm σ) (parent : ContextId) : r.issuedId parent ≠ "" := by
  by_cases h : (r.context parent).id.isEmpty = true
  · intro he
    have hform := isVersion4_issuedId h
    rw [he] at hform
    exact absurd hform (by decide)
  · rw [issuedId, if_neg h]
    simpa using h

theorem id_derive (r : Realm σ) (parent : ContextId) :
    ((r.derive parent).2.context r.contexts.size).id = r.issuedId parent := by
  unfold derive issuedId
  by_cases h : (r.context parent).id.isEmpty = true
  · have hadd := context_add_self { r with ids := r.ids.mint.2 }
      ((r.context parent).derived parent r.ids.mint.1)
    simp only [h, if_true]
    rw [show r.contexts.size = (({ r with ids := r.ids.mint.2 } : Realm σ).add
      ((r.context parent).derived parent r.ids.mint.1)).1 from rfl, hadd]
    simp [Context.derived, Context.setId, h]
  · have hadd := r.context_add_self ((r.context parent).derived parent "")
    simp only [h, Bool.false_eq_true, if_false]
    rw [show r.contexts.size = (r.add ((r.context parent).derived parent "")).1 from rfl, hadd]
    simp [Context.derived, Context.setId, h]

theorem inStep_derive (r : Realm σ) (parent : ContextId) :
    ((r.derive parent).2.context r.contexts.size).InStep := by
  obtain ⟨fresh, h⟩ := r.context_derive parent
  rw [h]
  exact Context.inStep_derived _ _ _

/-- The context of a span has the id and the log values of a derived one. -/
theorem openSpan_named (r : Realm σ) (parent : ContextId) (name : String)
    (attributes : Attributes) :
    ((r.openSpan parent name attributes).2.context r.contexts.size).id = r.issuedId parent ∧
      ((r.openSpan parent name attributes).2.context r.contexts.size).InStep := by
  rw [context_openSpan_size, ← r.id_derive parent]
  have hstep := r.inStep_derive parent
  generalize (r.derive parent).2.context r.contexts.size = born at hstep ⊢
  cases r.observerOf parent with
  | inert => exact ⟨rfl, hstep⟩
  | tracing time => exact ⟨rfl, hstep⟩

/-- **Births.** A context that is made from another one is given its id, and is in step. -/
theorem inStep_act_size {op : Operation} {p : ContextId} (h : op.parent? = some p) (r : Realm σ) :
    ((op.act r).context r.contexts.size).id = r.issuedId p ∧
      ((op.act r).context r.contexts.size).InStep := by
  cases op with
  | derive parent =>
    cases h
    exact ⟨r.id_derive p, r.inStep_derive p⟩
  | openSpan parent name attributes =>
    cases h
    exact r.openSpan_named p name attributes
  | _ => cases h

/-! ## One operation -/

/-- An operation keeps a context in step unless it writes over the log value. -/
theorem inStep_act {op : Operation} {r : Realm σ} {c : ContextId} (hc : c < r.contexts.size)
    (hop : ¬ op.Overwrites c) (h : (r.context c).InStep) : ((op.act r).context c).InStep := by
  have hsame : (op.act r).context c = r.context c → ((op.act r).context c).InStep := by
    intro he
    rwa [he]
  have hupdate : ∀ (d : ContextId) (f : Context → Context),
      (d = c → (f (r.context c)).InStep) → ((r.update d f).context c).InStep := by
    intro d f hf
    rcases r.context_update_cases d c f with he | ⟨hd, he⟩
    · rwa [he]
    · rw [he]
      exact hf hd
  cases op with
  | addRoot sink => exact hsame (context_add_of_lt r hc _)
  | setId d id => exact hupdate d _ fun _ => Context.inStep_setId id _
  | setValue d name value => exact hupdate d _ fun _ => h
  | setLogValue d name value =>
    refine hupdate d _ fun hd => Context.inStep_setLogValue_of_ne ?_ value h
    rintro rfl
    exact hop ⟨value, by rw [hd]⟩
  | setHandle d name handle => exact hupdate d _ fun _ => h
  | setLogging d enabled => exact hupdate d _ fun _ => h
  | derive parent => exact hsame (r.context_derive_of_lt hc parent)
  | openSpan parent name attributes =>
    exact hsame (r.context_openSpan_of_lt hc parent name attributes)
  | measure span metric attributes value => exact hsame (r.context_measure c _ _ _ _ _)
  | closeSpan span attributes error => exact hsame (r.context_closeSpan c _ _ _ _)
  | emit d level message fields => exact hsame (context_emit r d c level message fields)
  | cancel d =>
    show ((r.cancel d).context c).InStep
    rw [r.context_cancel d hc]
    split
    · exact h
    · exact h
  | advance d => exact hsame rfl

/-! ## Records -/

theorem journal_emit (r : Realm σ) (c : ContextId) (level : LogLevel) (message : String)
    (fields : Entries Json) :
    (r.emit c level message fields).journal =
      if (r.context c).logging then r.journal.push ((r.context c).sink,
        ⟨level, message, (r.context c).logValues.overlay fields⟩) else r.journal := by
  unfold emit
  dsimp only
  split <;> rfl

theorem journal_derive (r : Realm σ) (parent : ContextId) :
    (r.derive parent).2.journal = r.journal := by
  obtain ⟨fresh, ids, he⟩ := r.derive_eq parent
  rw [he]
  rfl

/-- **Records.** An operation that has something to say leaves one record, with the log values of
the context under the fields that it has to say, if the context logs; no other record is left. -/
theorem journal_act (op : Operation) (r : Realm σ) :
    (op.act r).journal =
      match op.draft? r with
      | some (c, draft) =>
        if ((op.act r).context c).logging then
          r.journal.push (((op.act r).context c).sink,
            { draft with fields := ((op.act r).context c).logValues.overlay draft.fields })
        else r.journal
      | none => r.journal := by
  cases op with
  | openSpan parent name attributes =>
    have hsame := r.journal_derive parent
    cases ho : r.observerOf parent with
    | inert =>
      simp only [Operation.act, Operation.draft?, openSpan, ho]
      exact hsame
    | tracing time =>
      simp only [Operation.act, Operation.draft?, openSpan, ho, journal_emit, context_emit,
        derive_fst]
      rw [← hsame]
      rfl
  | measure span metric attributes value =>
    cases ho : r.observerOf span with
    | inert =>
      simp only [Operation.act, Operation.draft?, measure, ho]
      rfl
    | tracing time =>
      simp only [Operation.act, Operation.draft?, measure, ho, journal_emit, context_emit]
      rfl
  | closeSpan span attributes error =>
    cases ho : r.observerOf span with
    | inert =>
      simp only [Operation.act, Operation.draft?, closeSpan, ho]
      rfl
    | tracing time =>
      have hfields : ∀ call, (r.told call).spanFields time span (textFields attributes) =
          r.spanFields time span (textFields attributes) := by
        intro call
        cases time <;> rfl
      cases error <;>
        simp only [Operation.act, Operation.draft?, closeSpan, ho, journal_emit, context_emit,
          hfields] <;>
        rfl
  | emit c level message fields =>
    simp only [Operation.act, Operation.draft?, journal_emit, context_emit]
  | derive parent => exact r.journal_derive parent
  | _ => rfl

/-! ## Runs -/

/-- An operation of a run gives a context its correlation id: it derives the context from another
one, or sets the id. -/
def Identifies (ops : Nat → Operation) (r : Realm σ) (j : Nat) (c : ContextId) : Prop :=
  (∃ p, (ops j).parent? = some p ∧ (r.after ops j).contexts.size = c) ∨ ∃ id, ops j = .setId c id

variable {ops : Nat → Operation} {r : Realm σ} {n : Nat}

/-- From the operation that gave it its id on, a context is in step until its log value is written
over. -/
theorem inStep_after (hproper : Proper ops r n) {j : Nat} {c : ContextId} (hj : j < n)
    (hid : Identifies ops r j c) (hkept : ∀ k, j < k → k < n → ¬ (ops k).Overwrites c) :
    c < (r.after ops n).contexts.size ∧ ((r.after ops n).context c).InStep := by
  induction n, hj using Nat.le_induction with
  | base =>
    rcases hid with ⟨p, hp, rfl⟩ | ⟨id, hset⟩
    · refine ⟨?_, (inStep_act_size hp (r.after ops j)).2⟩
      rw [after, size_act, Operation.makes_of_parent? hp]
      exact Nat.lt_succ_self _
    · have hthere := hproper j (Nat.lt_succ_self j) c (by rw [hset]; rfl)
      refine ⟨Nat.lt_of_lt_of_le hthere (size_after_le ops r (Nat.le_succ j)), ?_⟩
      rw [after, hset]
      show (((r.after ops j).update c (.setId id)).context c).InStep
      rw [context_update_self _ hthere]
      exact Context.inStep_setId id _
  | succ n hjn ih =>
    obtain ⟨hthere, hstep⟩ := ih (hproper.mono (Nat.le_succ n))
      fun k hjk hkn => hkept k hjk (Nat.lt_succ_of_lt hkn)
    refine ⟨Nat.lt_of_lt_of_le hthere (size_after_le ops r (Nat.le_succ n)), ?_⟩
    rw [after]
    exact inStep_act hthere (hkept n hjn (Nat.lt_succ_self n)) hstep

/-- **Correlation.** After any operations on any contexts, each context that was derived or whose id
was set has its id among its log values, unless they were written over since. A context that is
derived is given the id of its parent, or a fresh one if its parent has none, and has it among its
log values whatever its parent has there. And each record that is left through a context in step,
and does not bring a correlation id of its own, carries the id of the context at that moment. -/
theorem traceId_follows_id (ops : Nat → Operation) (r : Realm σ) (n : Nat)
    (hproper : Proper ops r n) :
    (∀ j < n, ∀ c, Identifies ops r j c → (∀ k, j < k → k < n → ¬ (ops k).Overwrites c) →
      ((r.after ops n).context c).logValue? Key.traceId =
        some (.str ((r.after ops n).context c).id)) ∧
    (∀ j < n, ∀ p, (ops j).parent? = some p →
      ∃ born, born = (r.after ops (j + 1)).context (r.after ops j).contexts.size ∧
        (((r.after ops j).context p).id ≠ "" → born.id = ((r.after ops j).context p).id) ∧
        (((r.after ops j).context p).id = "" → Uuid.isVersion4 born.id = true) ∧
        born.logValue? Key.traceId = some (.str born.id)) ∧
    ∀ k < n,
      match (ops k).draft? (r.after ops k) with
      | none => (r.after ops (k + 1)).journal = (r.after ops k).journal
      | some (c, draft) =>
        if ((r.after ops (k + 1)).context c).logging then
          ∃ sink record, (r.after ops (k + 1)).journal =
              (r.after ops k).journal.push (sink, record) ∧
            record.level = draft.level ∧ record.message = draft.message ∧
            (Entries.find? Key.traceId draft.fields = none →
              (∃ j ≤ k, Identifies ops r j c ∧
                ∀ i, j < i → i ≤ k → ¬ (ops i).Overwrites c) →
              Entries.find? Key.traceId record.fields =
                some (.str ((r.after ops (k + 1)).context c).id))
        else (r.after ops (k + 1)).journal = (r.after ops k).journal := by
  refine ⟨fun j hj c hid hkept => (inStep_after hproper hj hid hkept).2, ?_, ?_⟩
  · intro j _ p hp
    obtain ⟨hid, hstep⟩ := inStep_act_size hp (r.after ops j)
    refine ⟨_, rfl, fun hne => ?_, fun he => ?_, hstep⟩
    · rw [after, hid, issuedId, if_neg (by simpa using hne)]
    · rw [after, hid]
      exact isVersion4_issuedId (by simp [he])
  · intro k hk
    have hjournal := journal_act (ops k) (r.after ops k)
    cases hd : (ops k).draft? (r.after ops k) with
    | none =>
      rw [hd] at hjournal
      exact hjournal
    | some spoken =>
      obtain ⟨c, draft⟩ := spoken
      rw [hd] at hjournal
      dsimp only at hjournal ⊢
      rw [after]
      split
      · next hlogs =>
        rw [if_pos hlogs] at hjournal
        refine ⟨_, _, hjournal, rfl, rfl, fun hnone hnamed => ?_⟩
        obtain ⟨j, hjk, hid, hkept⟩ := hnamed
        obtain ⟨-, hstep⟩ := inStep_after (hproper.mono (Nat.succ_le_of_lt hk))
          (Nat.lt_succ_of_le hjk) hid fun i hji hik => hkept i hji (Nat.le_of_lt_succ hik)
        exact (Entries.find?_overlay_of_eq_none hnone).trans hstep
      · next hsilent =>
        rwa [if_neg hsilent] at hjournal

/-- A root with an id, over which another log value is written; a traced span that starts in it and
then loses its id; and a context derived from that span, which has something to say. -/
def errand : Nat → Operation := fun i =>
  [.addRoot .kept, .setHandle 0 Key.observer (.observer (.tracing .shared)), .setId 0 "order-7",
    .setLogValue 0 Key.traceId (.str "other"), .openSpan 0 "work" [], .setId 1 "", .derive 1,
    .emit 2 .info "packed" []].getD i (.advance (.ofMillis 1))

theorem traceId_follows_id_errand :
    Proper errand vacant 8 ∧ ((vacant.after errand 5).context 1).id = "order-7" ∧
      ((vacant.after errand 8).context 1).logValue? Key.traceId = some (.str "") ∧
      Uuid.isVersion4 ((vacant.after errand 7).context 2).id = true ∧
      ∃ sink record, (vacant.after errand 8).journal =
          (vacant.after errand 7).journal.push (sink, record) ∧ record.message = "packed" ∧
        Entries.find? Key.traceId record.fields =
          some (.str ((vacant.after errand 8).context 2).id) := by
  have hproper : Proper errand vacant 8 := by decide +kernel
  have hsize : (vacant.after errand 4).contexts.size = 1 ∧
      (vacant.after errand 6).contexts.size = 2 := by decide +kernel
  have hroot : ((vacant.after errand 4).context 0).id = "order-7" := by decide +kernel
  have hspan : ((vacant.after errand 6).context 1).id = "" := by decide +kernel
  have hlogs : ((vacant.after errand 8).context 2).logging = true := by decide +kernel
  have hid : ((vacant.after errand 8).context 1).id = "" := by decide +kernel
  obtain ⟨hstep, hbirth, hrecord⟩ := traceId_follows_id errand vacant 8 hproper
  refine ⟨hproper, ?_, ?_, ?_, ?_⟩
  · obtain ⟨born, hborn, hkept, -⟩ := hbirth 4 (by decide) 0 rfl
    rw [hsize.1] at hborn
    rw [← hborn, hkept (by rw [hroot]; decide), hroot]
  · rw [hstep 5 (by decide) 1 (.inr ⟨"", rfl⟩), hid]
    intro k hlo hhi
    obtain rfl | rfl : k = 6 ∨ k = 7 := by omega
    · rintro ⟨_, h⟩
      cases h
    · rintro ⟨_, h⟩
      cases h
  · obtain ⟨born, hborn, -, hfresh, -⟩ := hbirth 6 (by decide) 1 rfl
    rw [hsize.2] at hborn
    rw [← hborn]
    exact hfresh hspan
  · have hsaid := hrecord 7 (by decide)
    rw [show (errand 7).draft? (vacant.after errand 7) =
      some (2, ⟨.info, "packed", []⟩) from rfl] at hsaid
    dsimp only at hsaid
    rw [if_pos hlogs] at hsaid
    obtain ⟨sink, record, hjournal, -, hmessage, hfields⟩ := hsaid
    refine ⟨sink, record, hjournal, hmessage,
      hfields rfl ⟨6, by decide, .inl ⟨1, rfl, hsize.2⟩, ?_⟩⟩
    intro k hlo hhi
    obtain rfl : k = 7 := by omega
    rintro ⟨_, h⟩
    cases h

end Realm
end EventRelay
