import EventRelay.Proofs.Delivery.Course
import EventRelay.Proofs.Delivery.Schedule
import EventRelay.Proofs.Delivery.Separation

/-!
# What a delivery logs

A delivery tells of each further send and of its end, through the context that it is for. What it
has to say of a send it says when the send is over, so that the records of a delivery lie between
its sends, whatever the transport logs in the meantime.

* `Context.said`: what a context leaves in the journal when something is logged through it.
* `Realm.Speaks`: a context that logs and that nobody observes.
* `Courier.Remarks`: what a delivery says after one of its sends. `Courier.Told`: after each of
  some.
* `Realm.Adds`: steps that add records to the journal and write to no context.
* `sending_starts`, `closed_adds`, `log_closed_adds`, `logRetry_wait_adds`: the steps of a delivery
  and what they leave in the journal.
* `Trail.remarks_next`, `Trail.remarks_last`: what is said between two sends and after the last one.
* `retry_records`: all that a delivery says, and with which log values.
-/

namespace EventRelay

variable {σ : Type}

namespace Context

/-- What a context leaves in the journal when fields that are texts are logged through it. -/
def said (x : Context) (level : LogLevel) (message : String) (fields : List (String × String)) :
    Sink × LogRecord :=
  (x.sink, ⟨level, message, x.logValues.overlay (textFields fields)⟩)

/-- The record that another send follows after a wait. -/
def retrying (x : Context) (status : UInt16) (delay : Duration) (transient : Bool) :
    Sink × LogRecord :=
  x.said .debug "retrying request" [("status", toString status.toNat),
    ("delay_ms", toString delay.wholeMillis),
    ("transient", if transient then "true" else "false")]

/-- A record shows the log values under the names that are not among its own fields. -/
theorem find?_said (x : Context) (level : LogLevel) (message : String)
    {fields : List (String × String)} {name : String} (h : name ∉ fields.map Prod.fst) :
    Entries.find? name (x.said level message fields).2.fields = x.logValue? name := by
  refine Entries.find?_overlay_of_eq_none (Entries.find?_ofList_eq_none fun p hp he => h ?_)
  obtain ⟨field, hfield, rfl⟩ := List.mem_map.1 hp
  exact List.mem_map.2 ⟨field, hfield, he⟩

theorem said_congr {x y : Context} (h : x.awake = y.awake) (level : LogLevel) (message : String)
    (fields : List (String × String)) :
    x.said level message fields = y.said level message fields := by
  obtain ⟨-, -, hlog, -, -, hsink⟩ := eq_of_awake h
  rw [said, said, hlog, hsink]

end Context

namespace Realm

/-- A context that there is and that logs, and that nobody observes. -/
structure Speaks (r : Realm σ) (c : ContextId) : Prop where
  lt_size : c < r.contexts.size
  logging : (r.context c).logging = true
  unobserved : r.observerOf c = .inert

variable {r r' : Realm σ} {c : ContextId}

theorem Speaks.of_spares (h : r.Speaks c) (hspares : Spares r r') : r'.Speaks c := by
  obtain ⟨-, -, -, hhandles, hlogging, -⟩ := Context.eq_of_awake (hspares.awake_eq c h.lt_size)
  exact ⟨Nat.lt_of_lt_of_le h.lt_size hspares.size_le, hlogging.trans h.logging,
    (Context.observer_congr hhandles).trans h.unobserved⟩

theorem journal_openSpan (h : r.observerOf c = .inert) (name : String) (attributes : Attributes) :
    (r.openSpan c name attributes).2.journal = r.journal := by
  simp only [openSpan, h]
  exact r.journal_derive c

/-- Records were added to the journal, and no context was written to. -/
structure Adds (said : List (Sink × LogRecord)) (r r' : Realm σ) : Prop extends Spares r r' where
  journal_eq : r'.journal.toList = r.journal.toList ++ said

theorem Adds.trans {r'' : Realm σ} {said said' : List (Sink × LogRecord)} (h : Adds said r r')
    (h' : Adds said' r' r'') : Adds (said ++ said') r r'' where
  toSpares := h.toSpares.trans h'.toSpares
  journal_eq := by rw [h'.journal_eq, h.journal_eq, List.append_assoc]

theorem Adds.logValues_eq {said : List (Sink × LogRecord)} (h : Adds said r r')
    (hc : c < r.contexts.size) : (r'.context c).logValues = (r.context c).logValues :=
  (Context.eq_of_awake (h.awake_eq c hc)).2.2.1

theorem log_adds (h : r.Speaks c) (level : LogLevel) (message : String)
    (fields : List (String × String)) :
    Adds [(r.context c).said level message fields] r (r.log c level message fields) where
  toSpares := log_spares ..
  journal_eq := by
    rw [log, journal_emit, if_pos h.logging, Array.toList_push]
    rfl

/-- Nothing is logged in a wait. -/
theorem wait_adds (r : Realm σ) (source : TimeSource) (c : ContextId) (d : Duration) :
    Adds [] r (r.wait source c d).2 where
  toSpares := wait_spares ..
  journal_eq := by
    have hsame : (r.wait source c d).2.journal = r.journal :=
      wait_lift (R := fun r r' => r'.journal = r.journal) (fun h h' => h'.trans h)
        (fun _ _ => rfl) (fun _ _ _ _ _ => rfl) r source c d
    rw [hsame, List.append_nil]

end Realm

namespace Courier

/-- What a delivery says through its context after its send at a place, if it makes so many sends.
After a send that is followed by another one it tells of the wait between them. After the last send
it says nothing if that is not worth another one, that the attempts are used up if they are, and
else that it was abandoned in the wait. -/
inductive Remarks (p : RetryPlan) (request : OutboundRequest) (count i : Nat) (caller : Context) :
    Outcome Exchange → List (Sink × LogRecord) → Prop
  | retried {x : Exchange} {delay : Duration} {transient : Bool} :
      i + 1 < count → x.isRetryable = true → p.schedule[i]? = some delay →
      (transient = false ↔ ∃ e, x.error = some e ∧ e.isTransient = false) →
      Remarks p request count i caller (.returned x) [caller.retrying x.status delay transient]
  | done {outcome : Outcome Exchange} :
      i + 1 = count → (∀ x, outcome = .returned x → x.isRetryable = false) →
      Remarks p request count i caller outcome []
  | exhausted {x : Exchange} :
      i + 1 = count → count = p.attemptLimit → x.isRetryable = true →
      Remarks p request count i caller (.returned x) [caller.said .warn "retries exhausted"
        [("status", toString x.status.toNat), ("url", request.url)]]
  | abandoned {x : Exchange} {delay : Duration} {transient : Bool} :
      i + 1 = count → count < p.attemptLimit → x.isRetryable = true →
      p.schedule[i]? = some delay →
      (transient = false ↔ ∃ e, x.error = some e ∧ e.isTransient = false) →
      Remarks p request count i caller (.returned x)
        [caller.retrying x.status delay transient, caller.said .info "retry cancelled" []]

/-- What is said after each of so many sends, the first ones of a delivery. -/
structure Told (p : RetryPlan) (request : OutboundRequest) (c : ContextId)
    (sends : List (Sending σ)) (n : Nat) (said : List (List (Sink × LogRecord))) : Prop where
  length_eq : said.length = n
  remarks : ∀ i < n, ∀ s, sends[i]? = some s → ∃ remarks, said[i]? = some remarks ∧
    Remarks p request sends.length i (s.finish.context c) s.outcome remarks

/-- One more send. -/
theorem Told.concat {p : RetryPlan} {request : OutboundRequest} {c : ContextId}
    {sends : List (Sending σ)} {n : Nat} {said : List (List (Sink × LogRecord))} {s : Sending σ}
    {remarks : List (Sink × LogRecord)} (h : Told p request c sends n said)
    (hs : sends[n]? = some s)
    (hremarks : Remarks p request sends.length n (s.finish.context c) s.outcome remarks) :
    Told p request c sends (n + 1) (said ++ [remarks]) where
  length_eq := by rw [List.length_append, h.length_eq, List.length_singleton]
  remarks i hi s' hs' := by
    have hlen := h.length_eq
    obtain hi | rfl := Nat.lt_succ_iff_lt_or_eq.1 hi
    · obtain ⟨remarks', hget, hmade⟩ := h.remarks i hi s' hs'
      exact ⟨remarks', by rw [List.getElem?_append_left (by omega), hget], hmade⟩
    · obtain rfl := Option.some.inj (hs'.symm.trans hs)
      exact ⟨remarks, by rw [← hlen, List.getElem?_concat_length], hremarks⟩

/-- Each record has the log values of the context beside its own fields. -/
theorem Remarks.find?_eq {p : RetryPlan} {request : OutboundRequest} {count i : Nat}
    {caller : Context} {outcome : Outcome Exchange} {said : List (Sink × LogRecord)}
    (h : Remarks p request count i caller outcome said) {entry : Sink × LogRecord}
    (hentry : entry ∈ said) {name : String}
    (hname : name ∉ ["status", "delay_ms", "transient", "url"]) :
    Entries.find? name entry.2.fields = caller.logValue? name := by
  have hretrying : ∀ status delay transient, Entries.find? name
      (caller.retrying status delay transient).2.fields = caller.logValue? name := by
    intro status delay transient
    refine caller.find?_said _ _ fun hmem => hname ?_
    simp only [List.map_cons, List.map_nil, List.mem_cons] at hmem ⊢
    tauto
  cases h with
  | retried =>
    obtain rfl := List.mem_singleton.1 hentry
    exact hretrying ..
  | done => cases hentry
  | exhausted =>
    obtain rfl := List.mem_singleton.1 hentry
    refine caller.find?_said _ _ fun hmem => hname ?_
    simp only [List.map_cons, List.map_nil, List.mem_cons] at hmem ⊢
    tauto
  | abandoned =>
    obtain rfl | hentry := List.mem_cons.1 hentry
    · exact hretrying ..
    · obtain rfl := List.mem_singleton.1 hentry
      exact caller.find?_said _ _ List.not_mem_nil

variable {d : Courier} {t : Transport σ} {c : ContextId} {request : OutboundRequest}

/-! ## The steps of a delivery -/

/-- A send before which its number was noted and nothing else was done for the context: nothing was
logged, and nobody observes the span. -/
structure Starts (c : ContextId) (number : Nat) (r : Realm σ) (s : Sending σ) : Prop where
  journal_eq : s.start.journal = r.journal
  rests_eq : s.start.rests = r.rests
  context_eq : s.start.context c = (r.context c).setLogValue Key.attempt (.ofNat number)
  speaks : s.start.Speaks c
  unobserved : s.start.observerOf s.span = .inert

theorem sending_starts {r : Realm σ} (h : r.Speaks c) {number : Nat} {s : Sending σ}
    (hs : s = sending t c request number r) : Starts c number r s := by
  obtain ⟨numbered, hnumbered⟩ : ∃ s, s = r.setLogValue c Key.attempt (.ofNat number) := ⟨_, rfl⟩
  have hself : numbered.context c = (r.context c).setLogValue Key.attempt (.ofNat number) := by
    rw [hnumbered, Realm.setLogValue, Realm.context_update_self r h.lt_size]
  have hlt : c < numbered.contexts.size := by
    rw [hnumbered]
    exact Nat.lt_of_lt_of_le h.lt_size (r.setLogValue_quiet ..).size_le
  have hunobserved : numbered.observerOf c = .inert := by
    rw [Realm.observerOf, hself]
    exact h.unobserved
  have hstart : s.start = (numbered.openSpan c SpanName.httpRequest
      [(AttributeName.httpUrl, request.url)]).2 := by
    rw [hs, hnumbered]
    rfl
  have hspan : s.span = numbered.contexts.size := by
    rw [hs, hnumbered]
    rfl
  have hcontext : s.start.context c = numbered.context c := by
    rw [hstart, Realm.context_openSpan_of_lt _ hlt]
  obtain ⟨-, fresh, values, hborn⟩ := numbered.context_openSpan c SpanName.httpRequest
    [(AttributeName.httpUrl, request.url)]
  refine ⟨?_, ?_, hcontext.trans hself, ⟨?_, ?_, ?_⟩, ?_⟩
  · rw [hstart, Realm.journal_openSpan hunobserved, hnumbered]
    rfl
  · rw [hstart, (Realm.openSpan_quiet ..).rests_eq, hnumbered]
    rfl
  · rw [hstart]
    exact Nat.lt_of_lt_of_le hlt (Realm.openSpan_quiet ..).size_le
  · rw [hcontext, hself]
    exact h.logging
  · rw [Realm.observerOf, hcontext]
    exact hunobserved
  · rw [hstart, hspan, Realm.observerOf, hborn]
    exact hunobserved

/-- An attempt whose span nobody observes ends without a record. -/
theorem closed_adds (d : Courier) {s : Sending σ} (h : s.start.observerOf s.span = .inert) :
    Realm.Adds [] s.finish (s.closed d) where
  size_le := (s.closed_calm d).size_le
  awake_eq c _ := by
    unfold Sending.closed
    split
    · rw [Realm.context_closeSpan, Realm.context_measure]
    · rfl
  journal_eq := by
    unfold Sending.closed
    split
    · rw [h, List.append_nil]
      rfl
    · exact (List.append_nil _).symm

/-- What is logged after an attempt is logged with the log values that its send has left. -/
theorem log_closed_adds {s : Sending σ} (hs : s.start.observerOf s.span = .inert)
    (h : s.finish.Speaks c) (level : LogLevel) (message : String)
    (fields : List (String × String)) :
    Realm.Adds [(s.finish.context c).said level message fields] s.finish
      ((s.closed d).log c level message fields) := by
  have hclosed := closed_adds d hs
  have hlog := Realm.log_adds (h.of_spares hclosed.toSpares) level message fields
  rw [Context.said_congr (hclosed.awake_eq c h.lt_size)] at hlog
  exact hclosed.trans hlog

theorem isTransient_all_eq_false_iff (x : Exchange) :
    x.error.all DeliveryFailure.isTransient = false ↔
      ∃ e, x.error = some e ∧ e.isTransient = false := by
  cases x.error <;> simp

/-- The wait after an attempt leaves one record, which tells of it. -/
theorem logRetry_wait_adds {s : Sending σ} (hs : s.start.observerOf s.span = .inert)
    (h : s.finish.Speaks c) (x : Exchange) (delay : Duration) :
    Realm.Adds [(s.finish.context c).retrying x.status delay
        (x.error.all DeliveryFailure.isTransient)] s.finish
      ((logRetry c x delay (s.closed d)).wait d.time c delay).2 :=
  (log_closed_adds hs h ..).trans (Realm.wait_adds ..)

/-- No time passes after a send until the wait. -/
theorem rests_log_closed (d : Courier) (s : Sending σ) (c : ContextId) (level : LogLevel)
    (message : String) (fields : List (String × String)) :
    ((s.closed d).log c level message fields).rests = s.finish.rests :=
  (Realm.log_quiet ..).rests_eq.trans (s.closed_calm d).rests_eq

/-! ## The records of a delivery -/

/-- What holds of the first entry, and of each entry if it holds of the one before, holds of all. -/
theorem getElem?_induction {α : Type} {l : List α} {P : Nat → α → Prop}
    (zero : ∀ x, l[0]? = some x → P 0 x)
    (succ : ∀ i x y, l[i]? = some x → l[i + 1]? = some y → P i x → P (i + 1) y) {i : Nat} {x : α}
    (h : l[i]? = some x) : P i x := by
  induction i generalizing x with
  | zero => exact zero x h
  | succ i ih =>
    obtain ⟨hlt, -⟩ := List.getElem?_eq_some_iff.1 h
    have hbefore := List.getElem?_eq_getElem (Nat.lt_of_succ_lt hlt)
    exact succ i _ x hbefore h (ih hbefore)

namespace Trail

variable {r r' : Realm σ} {sends : List (Sending σ)} {outcome : Outcome Exchange}

/-- What no send takes from the context it has whenever a send is over, and nobody observes the
spans. -/
theorem speaks {left number : Nat} {backoff : Duration}
    (h : Trail d none t c request left number backoff r sends outcome r') (hr : r.Speaks c)
    (hkeep : ∀ s ∈ sends, s.start.Speaks c → s.finish.Speaks c) {i : Nat} {s : Sending σ}
    (hi : sends[i]? = some s) : s.start.observerOf s.span = .inert ∧ s.finish.Speaks c := by
  refine getElem?_induction
    (P := fun _ s => s.start.observerOf s.span = .inert ∧ s.finish.Speaks c) ?_ ?_ hi
  · intro s hs
    have hstarts := sending_starts hr (h.eq_of_getElem?_zero hs)
    exact ⟨hstarts.unobserved, hkeep s (List.mem_of_getElem? hs) hstarts.speaks⟩
  · rintro i s next hs hnext ⟨hunobserved, hspeaks⟩
    obtain ⟨x, delay, w, -, -, -, rfl, -, hsent⟩ := h.next_eq hs hnext
    have hadds := logRetry_wait_adds (d := d) hunobserved hspeaks x delay
    have hstarts := sending_starts (hspeaks.of_spares hadds.toSpares) hsent
    exact ⟨hstarts.unobserved, hkeep next (List.mem_of_getElem? hnext) hstarts.speaks⟩

/-- **Between two sends** a delivery tells of the wait between them, which it sleeps, and then notes
the number of the next one. -/
theorem remarks_next
    (h : Trail d none t c request (d.plan.attemptLimit - 1) 1 d.plan.initialBackoff r sends outcome
      r')
    (hr : r.Speaks c) (hkeep : ∀ s ∈ sends, s.start.Speaks c → s.finish.Speaks c) {i : Nat}
    {s next : Sending σ} (hi : sends[i]? = some s) (hnext : sends[i + 1]? = some next) :
    ∃ delay said, d.plan.schedule[i]? = some delay ∧
      Remarks d.plan request sends.length i (s.finish.context c) s.outcome said ∧
      next.start.journal.toList = s.finish.journal.toList ++ said ∧
      next.start.rests = s.finish.rests.push delay ∧
      (next.start.context c).logValues =
        (s.finish.context c).logValues.insert Key.attempt (.ofNat (i + 2)) := by
  obtain ⟨x, delay, w, hx, hretry, hdelay, rfl, htrue, hsent⟩ := h.next_eq hi hnext
  obtain ⟨hunobserved, hspeaks⟩ := h.speaks hr hkeep hi
  have hadds := logRetry_wait_adds (d := d) hunobserved hspeaks x delay
  have hstarts := sending_starts (hspeaks.of_spares hadds.toSpares) hsent
  obtain ⟨hlt, -⟩ := List.getElem?_eq_some_iff.1 hnext
  have hsaid : Remarks d.plan request sends.length i (s.finish.context c) (.returned x) _ :=
    .retried hlt hretry hdelay (isTransient_all_eq_false_iff x)
  rw [← hx] at hsaid
  refine ⟨delay, _, hdelay, hsaid, ?_, ?_, ?_⟩
  · rw [hstarts.journal_eq, hadds.journal_eq]
  · rw [hstarts.rests_eq, (Realm.wait_completed htrue).1, logRetry, rests_log_closed]
  · rw [hstarts.context_eq, Context.setLogValue, hadds.logValues_eq hspeaks.lt_size,
      show 1 + i + 1 = i + 2 by omega]

/-- **After the last send** a delivery tells how it ends, and writes nothing more to the log
values. -/
theorem remarks_last
    (h : Trail d none t c request (d.plan.attemptLimit - 1) 1 d.plan.initialBackoff r sends outcome
      r')
    (hr : r.Speaks c) (hkeep : ∀ s ∈ sends, s.start.Speaks c → s.finish.Speaks c) {s : Sending σ}
    (hlast : sends.getLast? = some s) :
    ∃ said, Remarks d.plan request sends.length (sends.length - 1) (s.finish.context c) s.outcome
        said ∧
      Realm.Adds said s.finish r' ∧ r'.rests = s.finish.rests ∧
      ∀ x, s.outcome = .returned x → x.isRetryable = true → sends.length < d.plan.attemptLimit →
        r'.isCancelled c = true ∧ outcome = .returned
          { x with error := some (.cancelled (.ofNat sends.length)) } := by
  have hplace : sends[sends.length - 1]? = some s := by
    rw [← List.getLast?_eq_getElem?]
    exact hlast
  obtain ⟨hlt, -⟩ := List.getElem?_eq_some_iff.1 hplace
  have hlen : sends.length - 1 + 1 = sends.length := by omega
  have hlimit : d.plan.attemptLimit - 1 + 1 = d.plan.attemptLimit :=
    Nat.sub_add_cancel (Nat.le_max_right _ _)
  obtain ⟨hinert, hspeaks⟩ := h.speaks hr hkeep hplace
  obtain ⟨hend, -, rfl⟩ | ⟨x, hx, hretry, ⟨hfull, -, rfl⟩ |
    ⟨hle, delay, w, hdelay, rfl, ⟨hfalse, hout, rfl⟩ | ⟨-, hlate, -⟩⟩⟩ := h.getLast?_cases hlast
  · refine ⟨[], .done hlen hend, closed_adds d hinert, (s.closed_calm d).rests_eq,
      fun x hx hretry => ?_⟩
    rw [hend x hx] at hretry
    cases hretry
  · have hsaid : Remarks d.plan request sends.length (sends.length - 1) (s.finish.context c)
        (.returned x) _ := .exhausted hlen (hfull.trans hlimit) hretry
    rw [← hx] at hsaid
    exact ⟨_, hsaid, log_closed_adds hinert hspeaks .., rests_log_closed .., fun _ _ _ hmore => by
      omega⟩
  · have hsaid : Remarks d.plan request sends.length (sends.length - 1) (s.finish.context c)
        (.returned x) _ :=
      .abandoned hlen (by omega) hretry hdelay (isTransient_all_eq_false_iff x)
    rw [← hx] at hsaid
    have hadds := logRetry_wait_adds (d := d) hinert hspeaks x delay
    have hlog := Realm.log_adds (hspeaks.of_spares hadds.toSpares) .info "retry cancelled" []
    rw [Context.said_congr (hadds.awake_eq c hspeaks.lt_size)] at hlog
    refine ⟨_, hsaid, hadds.trans hlog, ?_, fun y hy _ _ => ⟨?_, ?_⟩⟩
    · rw [(Realm.log_quiet ..).rests_eq, (Realm.wait_abandoned_eq hfalse).1, logRetry,
        rests_log_closed]
    · rw [Realm.isCancelled, Realm.context_log]
      exact Realm.wait_abandoned hfalse
    · obtain rfl : x = y := Outcome.returned.inj (hx.symm.trans hy)
      rw [hout, show 1 + (sends.length - 1) = sends.length by omega]
  · cases hlate

/-- If no send writes to the log values of the context, they are what they were but for the number
of the send. -/
theorem logValues_eq
    (h : Trail d none t c request (d.plan.attemptLimit - 1) 1 d.plan.initialBackoff r sends outcome
      r')
    (hr : r.Speaks c) (hkeep : ∀ s ∈ sends, s.start.Speaks c → s.finish.Speaks c)
    (hkept : ∀ s ∈ sends, (s.finish.context c).logValues = (s.start.context c).logValues) {i : Nat}
    {s : Sending σ} (hi : sends[i]? = some s) :
    (s.finish.context c).logValues =
      (r.context c).logValues.insert Key.attempt (.ofNat (i + 1)) := by
  refine getElem?_induction (P := fun i s => (s.finish.context c).logValues =
    (r.context c).logValues.insert Key.attempt (.ofNat (i + 1))) ?_ ?_ hi
  · intro s hs
    have hstarts := sending_starts hr (h.eq_of_getElem?_zero hs)
    rw [hkept s (List.mem_of_getElem? hs), hstarts.context_eq]
    rfl
  · intro i s next hs hnext hlog
    obtain ⟨-, -, -, -, -, -, hnoted⟩ := h.remarks_next hr hkeep hs hnext
    rw [hkept next (List.mem_of_getElem? hnext), hnoted, hlog, Entries.insert_insert_self]

/-- If no send logs anything, what was logged before a send are the remarks on those before it. -/
theorem journal_start
    (h : Trail d none t c request (d.plan.attemptLimit - 1) 1 d.plan.initialBackoff r sends outcome
      r')
    (hr : r.Speaks c) (hkeep : ∀ s ∈ sends, s.start.Speaks c → s.finish.Speaks c)
    (hsilent : ∀ s ∈ sends, s.finish.journal = s.start.journal) {i : Nat} {s : Sending σ}
    (hi : sends[i]? = some s) :
    ∃ said, Told d.plan request c sends i said ∧
      s.start.journal.toList = r.journal.toList ++ said.flatten := by
  refine getElem?_induction (P := fun i s => ∃ said, Told d.plan request c sends i said ∧
    s.start.journal.toList = r.journal.toList ++ said.flatten) ?_ ?_ hi
  · intro s hs
    have hstarts := sending_starts hr (h.eq_of_getElem?_zero hs)
    exact ⟨[], ⟨rfl, fun i hi => absurd hi (Nat.not_lt_zero i)⟩, by simp [hstarts.journal_eq]⟩
  · rintro i s next hs hnext ⟨said, htold, hjournal⟩
    obtain ⟨delay, remarks, -, hremarks, hadded, -⟩ := h.remarks_next hr hkeep hs hnext
    refine ⟨said ++ [remarks], htold.concat hs hremarks, ?_⟩
    rw [hadded, hsilent s (List.mem_of_getElem? hs), hjournal]
    simp

end Trail

/-- **Records.** Let a delivery be made for a context that logs and that nobody observes, and let no
send change that. Whatever the transport does and logs otherwise, the delivery logs nothing before
its first send; between two sends one record of the wait between them, which is the one of the
schedule and is slept as it is told; and after the last send what becomes of it. A delivery that
ends in a wait is one of abandoned work. Between its sends the delivery writes nothing to the log
values of the context but the number of the next send. So if the sends do not write to them, each
record has them as they were before the delivery, with the number of the send that it is about; and
if the sends log nothing, there are no records but these. -/
theorem retry_records (d : Courier) (t : Transport σ) (c : ContextId) (request : OutboundRequest)
    (r : Realm σ) (hr : r.Speaks c)
    (hkeep : ∀ s ∈ d.sendings t c request r, s.start.Speaks c → s.finish.Speaks c) :
    ∃ sends, sends = d.sendings t c request r ∧ sends.length ≤ max d.plan.maxAttempts.toNat 1 ∧
      (∃ first, sends[0]? = some first ∧ first.start.journal = r.journal ∧
        (first.start.context c).logValues =
          (r.context c).logValues.insert Key.attempt (.ofNat 1)) ∧
      (∀ i s next, sends[i]? = some s → sends[i + 1]? = some next →
        ∃ delay said, d.plan.schedule[i]? = some delay ∧
          Remarks d.plan request sends.length i (s.finish.context c) s.outcome said ∧
          next.start.journal.toList = s.finish.journal.toList ++ said ∧
          next.start.rests = s.finish.rests.push delay ∧
          (next.start.context c).logValues =
            (s.finish.context c).logValues.insert Key.attempt (.ofNat (i + 2))) ∧
      (∃ last said, sends.getLast? = some last ∧
        Remarks d.plan request sends.length (sends.length - 1) (last.finish.context c) last.outcome
          said ∧
        (d.retry t c request r).2.journal.toList = last.finish.journal.toList ++ said ∧
        (d.retry t c request r).2.rests = last.finish.rests ∧
        ((d.retry t c request r).2.context c).logValues = (last.finish.context c).logValues ∧
        ∀ x, last.outcome = .returned x → x.isRetryable = true →
          sends.length < max d.plan.maxAttempts.toNat 1 →
          (d.retry t c request r).2.isCancelled c = true ∧ (d.retry t c request r).1 =
            .returned { x with error := some (.cancelled (.ofNat sends.length)) }) ∧
      ((∀ s ∈ sends, (s.finish.context c).logValues = (s.start.context c).logValues) →
        ∀ i s said, sends[i]? = some s →
          Remarks d.plan request sends.length i (s.finish.context c) s.outcome said →
          ∀ entry ∈ said, ∀ name ∉ ["status", "delay_ms", "transient", "url"],
            Entries.find? name entry.2.fields =
              ((r.context c).setLogValue Key.attempt (.ofNat (i + 1))).logValue? name) ∧
      ((∀ s ∈ sends, s.finish.journal = s.start.journal) →
        ∃ said : List (List (Sink × LogRecord)), said.length = sends.length ∧
          (d.retry t c request r).2.journal.toList = r.journal.toList ++ said.flatten ∧
          ∀ i s, sends[i]? = some s → ∃ remarks, said[i]? = some remarks ∧
            Remarks d.plan request sends.length i (s.finish.context c) s.outcome remarks) := by
  have htrail := trail_retry d t c request r
  generalize d.sendings t c request r = sends at htrail hkeep
  generalize (d.retry t c request r).1 = outcome at htrail ⊢
  generalize (d.retry t c request r).2 = r' at htrail ⊢
  have hfirst := htrail.getElem?_zero
  have hsome : sends ≠ [] := by
    rintro rfl
    cases hfirst
  obtain ⟨last, hlast⟩ : ∃ last, sends.getLast? = some last :=
    ⟨_, List.getLast?_eq_some_getLast hsome⟩
  have hstarts := sending_starts hr (htrail.eq_of_getElem?_zero hfirst)
  have hplace : sends[sends.length - 1]? = some last := by
    rw [← List.getLast?_eq_getElem?]
    exact hlast
  obtain ⟨said, hsaid, hadds, hrests, hcancelled⟩ := htrail.remarks_last hr hkeep hlast
  have hlog := hadds.logValues_eq (htrail.speaks hr hkeep hplace).2.lt_size
  have hle := htrail.course.length_le
  have hlimit : d.plan.attemptLimit - 1 + 1 = max d.plan.maxAttempts.toNat 1 :=
    Nat.sub_add_cancel (Nat.le_max_right _ _)
  refine ⟨sends, rfl, hlimit ▸ hle,
    ⟨_, hfirst, hstarts.journal_eq, by rw [hstarts.context_eq]; rfl⟩,
    fun i s next => htrail.remarks_next hr hkeep,
    ⟨last, said, hlast, hsaid, hadds.journal_eq, hrests, hlog, hcancelled⟩,
    fun hkept i s remarks hi hremarks entry hentry name hname => ?_, fun hsilent => ?_⟩
  · rw [hremarks.find?_eq hentry hname, Context.logValue?,
      htrail.logValues_eq hr hkeep hkept hi]
    rfl
  · obtain ⟨hlt, -⟩ := List.getElem?_eq_some_iff.1 hplace
    obtain ⟨before, htold, hbefore⟩ := htrail.journal_start hr hkeep hsilent hplace
    have hall := htold.concat hplace hsaid
    rw [Nat.sub_add_cancel (Nat.zero_lt_of_lt hlt)] at hall
    refine ⟨before ++ [said], hall.length_eq, ?_, fun i s hi => ?_⟩
    · rw [hadds.journal_eq, hsilent _ (List.mem_of_getElem? hplace), hbefore]
      simp
    · obtain ⟨hi', -⟩ := List.getElem?_eq_some_iff.1 hi
      exact hall.remarks i hi' s hi

/-- A realm with one context. The first send fails for good and the second one is not served; the
transport logs during the first one, and the work is abandoned during the wait after the second. -/
def faltering : Realm Script :=
  ((Realm.start (.startingAt 0) (fun _ => 0) (fun _ => "") (.ofExchanges
    [.failed (.invalidRequest "no host"), .response 503 .empty] [⟨some 1, none, some "sent", none⟩,
      ⟨some 2, none, none, some .cancelInWait⟩])).addRoot .kept).2

theorem retry_records_faltering :
    faltering.Speaks 0 ∧
      (∀ s ∈ patient.sendings Script.send 0 (.post "http://down.test/" .empty) faltering,
        s.start.Speaks 0 → s.finish.Speaks 0) ∧
      ∃ (earlier : List (Sink × LogRecord)) (caller : Context),
        (patient.retry Script.send 0 (.post "http://down.test/" .empty)
          faltering).2.journal.toList = earlier ++
            [caller.retrying 503 (.ofMillis 250) true, caller.said .info "retry cancelled" []] ∧
        Entries.find? Key.attempt (caller.said .info "retry cancelled" []).2.fields =
          some (.ofNat 2) := by
  have hspeaks : faltering.Speaks 0 := ⟨by decide, by decide, by decide⟩
  have hall : ∀ s ∈ patient.sendings Script.send 0 (.post "http://down.test/" .empty) faltering,
      0 < s.finish.contexts.size ∧ (s.finish.context 0).logging = true ∧
        s.finish.observerOf 0 = .inert ∧
        (s.finish.context 0).logValues = (s.start.context 0).logValues := by decide +kernel
  have hkeep : ∀ s ∈ patient.sendings Script.send 0 (.post "http://down.test/" .empty) faltering,
      s.start.Speaks 0 → s.finish.Speaks 0 :=
    fun s hs _ => ⟨(hall s hs).1, (hall s hs).2.1, (hall s hs).2.2.1⟩
  refine ⟨hspeaks, hkeep, ?_⟩
  obtain ⟨sends, hsent, -, -, -, ⟨last, said, hlast, hsaid, hjournal, -⟩, hcarried, -⟩ :=
    retry_records patient Script.send 0 (.post "http://down.test/" .empty) faltering hspeaks hkeep
  have hlength : sends.length = 2 := by
    rw [hsent]
    decide +kernel
  have hout : last.outcome = .returned (.response 503 .empty) := by
    have h : sends.getLast?.map Sending.outcome = some (.returned (.response 503 .empty)) := by
      rw [hsent]
      decide +kernel
    rw [hlast] at h
    exact Option.some.inj h
  have hplace : sends[1]? = some last := by
    rw [← hlast, List.getLast?_eq_getElem?, hlength]
  have hnumber := hcarried (fun s hs => (hall s (hsent ▸ hs)).2.2.2) 1 last said hplace
    (by rwa [hlength] at hsaid ⊢)
  rw [hlength, hout] at hsaid
  obtain rfl : said = [(last.finish.context 0).retrying 503 (.ofMillis 250) true,
      (last.finish.context 0).said .info "retry cancelled" []] := by
    cases hsaid with
    | retried hmore => exact absurd hmore (by decide)
    | done _ hend => exact absurd (hend _ rfl) (by decide)
    | exhausted _ hfull => exact absurd hfull (by decide)
    | @abandoned _ delay transient _ _ _ hdelay htransient =>
      obtain rfl : delay = .ofMillis 250 := Option.some.inj (hdelay.symm.trans (by decide))
      obtain rfl : transient = true := by
        refine (Bool.not_eq_false transient).mp fun hfalse => ?_
        obtain ⟨e, he, -⟩ := htransient.1 hfalse
        cases he
      rfl
  refine ⟨_, _, hjournal, ?_⟩
  rw [hnumber _ (List.mem_cons_of_mem _ (List.mem_singleton_self _)) _ (by decide)]
  exact Context.logValue?_setLogValue ..

end Courier
end EventRelay
