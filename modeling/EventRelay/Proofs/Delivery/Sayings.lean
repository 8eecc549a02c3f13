import EventRelay.Proofs.Delivery.Records

/-!
# What a delivery says, whoever observes it

What a delivery says through its context it says after one of its sends, when the attempt of that
send is over, and before the next one. If no send writes to the context, it is then what it was
before the delivery, with the number of the send among its log values; this holds for every observer
and for a context that does not log.

* `Saying`: what is logged through a context; `Context.entry`, `Context.heard`: what it leaves in
  the journal.
* `Saying.retrying`, `Saying.exhausted`, `Saying.abandoned`: what a delivery has to say.
* `Saying.ofMetric`, `Realm.spanEnd`: what an observer has to say. `measure_adds`,
  `closeSpan_adds`: it is heard through the context of the span.
* `Trail.numbered`: the context when an attempt is over.
* `Trail.heard_next`, `Trail.heard_last`: what is said between two sends and after the last one.
  `Parting`: all that can be said after the last one.
-/

namespace EventRelay

variable {σ : Type}

/-- What is logged through a context: a level, a message, and fields of its own. -/
structure Saying where
  level : LogLevel
  message : String
  fields : Entries Json
  sorted : fields.Sorted

namespace Saying

/-- Fields that are texts are logged. -/
def texts (level : LogLevel) (message : String) (fields : List (String × String)) : Saying :=
  ⟨level, message, textFields fields, sorted_textFields fields⟩

/-- Another send follows after a wait. -/
def retrying (x : Exchange) (delay : Duration) : Saying :=
  .texts .debug "retrying request" [("status", toString x.status.toNat),
    ("delay_ms", toString delay.wholeMillis),
    ("transient", if x.error.all DeliveryFailure.isTransient then "true" else "false")]

/-- The attempts are used up. -/
def exhausted (request : OutboundRequest) (x : Exchange) : Saying :=
  .texts .warn "retries exhausted" [("status", toString x.status.toNat), ("url", request.url)]

/-- Something was measured in a span. -/
def measured (metric : String) (attributes : Attributes) (value : Int64) : Saying :=
  ⟨.info, "metric recorded",
    ((textFields attributes).insert "metric" (.str metric)).insert "value" (.num (.ofInt64 value)),
    Entries.sorted_insert (Entries.sorted_insert (sorted_textFields attributes))⟩

/-- What an observer says of a measurement: one that does not log says nothing. -/
def ofMetric (observer : Observer) (metric : String) (attributes : Attributes) (value : Int64) :
    List Saying :=
  match observer with
  | .inert => []
  | .tracing _ => [.measured metric attributes value]

/-- The work was abandoned in a wait. -/
def abandoned : Saying := .texts .info "retry cancelled" []

end Saying

namespace Context

/-- The entry that a saying leaves: its fields stand over the log values of the context. -/
def entry (x : Context) (saying : Saying) : Sink × LogRecord :=
  (x.sink, ⟨saying.level, saying.message, x.logValues.overlay saying.fields⟩)

/-- The entries that sayings leave: one each if the context logs, and none if it does not. -/
def heard (x : Context) (sayings : List Saying) : List (Sink × LogRecord) :=
  if x.logging then sayings.map x.entry else []

/-- A record shows its own fields, and the log values under the names that are not among them. -/
theorem find?_entry (x : Context) (saying : Saying) (name : String) :
    Entries.find? name (x.entry saying).2.fields =
      (Entries.find? name saying.fields).or (x.logValue? name) :=
  Entries.find?_overlay saying.sorted.nodup_names

theorem heard_nil (x : Context) : x.heard [] = [] := by
  unfold heard
  split <;> rfl

theorem heard_append (x : Context) (sayings more : List Saying) :
    x.heard (sayings ++ more) = x.heard sayings ++ x.heard more := by
  unfold heard
  split
  · exact List.map_append
  · rfl

theorem heard_congr {x y : Context} (h : x.awake = y.awake) (sayings : List Saying) :
    x.heard sayings = y.heard sayings := by
  obtain ⟨-, -, hlog, -, hlogging, hsink⟩ := eq_of_awake h
  have hentry : x.entry = y.entry := by
    funext saying
    rw [entry, entry, hlog, hsink]
  rw [heard, heard, hlogging, hentry]

end Context

namespace Realm

variable {r r' : Realm σ} {c : ContextId}

theorem emit_spares (r : Realm σ) (c : ContextId) (level : LogLevel) (message : String)
    (fields : Entries Json) : Spares r (r.emit c level message fields) := by
  refine .of_contexts_eq ?_
  unfold emit
  dsimp only
  split <;> rfl

/-- What is logged is heard through its context. -/
theorem emit_adds (r : Realm σ) (c : ContextId) (saying : Saying) :
    Adds ((r.context c).heard [saying]) r
      (r.emit c saying.level saying.message saying.fields) where
  toSpares := r.emit_spares ..
  journal_eq := by
    rw [journal_emit, Context.heard]
    split
    · rw [Array.toList_push]
      rfl
    · exact (List.append_nil _).symm

/-- What is heard through a context that is only abandoned in the meantime. -/
theorem Adds.heard {r'' : Realm σ} {said : List (Sink × LogRecord)} {x : Context}
    {sayings : List Saying} (h : Adds said r r') (hx : (r'.context c).awake = x.awake)
    (h' : Adds ((r'.context c).heard sayings) r' r'') :
    Adds (said ++ x.heard sayings) r r'' := by
  rw [← Context.heard_congr hx]
  exact h.trans h'

theorem Adds.refl (r : Realm σ) : Adds [] r r where
  toSpares := .of_contexts_eq rfl
  journal_eq := (List.append_nil _).symm

theorem told_adds (r : Realm σ) (call : ObserverCall) : Adds [] r (r.told call) where
  toSpares := .of_contexts_eq rfl
  journal_eq := (List.append_nil _).symm

theorem sorted_spanFields (r : Realm σ) (time : TimeSource) (span : ContextId)
    {fields : Entries Json} (h : fields.Sorted) : (r.spanFields time span fields).Sorted := by
  unfold spanFields
  dsimp only
  cases (r.context span).value? Key.spanName with
  | none =>
    dsimp only
    split
    · exact Entries.sorted_insert h
    · exact h
  | some name =>
    dsimp only
    split
    · exact Entries.sorted_insert (Entries.sorted_insert h)
    · exact Entries.sorted_insert h

/-- A span ended without an error. An observer that does not log says nothing of it. -/
def spanEnd (r : Realm σ) (observer : Observer) (span : ContextId) (attributes : Attributes) :
    List Saying :=
  match observer with
  | .inert => []
  | .tracing time => [⟨.debug, "span ended", r.spanFields time span (textFields attributes),
      r.sorted_spanFields time span (sorted_textFields attributes)⟩]

theorem measure_adds (r : Realm σ) (observer : Observer) (span : ContextId) (metric : String)
    (attributes : Attributes) (value : Int64) :
    Adds ((r.context span).heard (Saying.ofMetric observer metric attributes value)) r
      (r.measure observer span metric attributes value) := by
  cases observer with
  | inert =>
    rw [Saying.ofMetric, Context.heard_nil]
    exact r.told_adds _
  | tracing time =>
    have hsaid := (r.told_adds (.recorded span metric attributes value)).trans
      (emit_adds _ span (.measured metric attributes value))
    exact hsaid

theorem closeSpan_adds (r : Realm σ) (observer : Observer) (span : ContextId)
    (attributes : Attributes) :
    Adds ((r.context span).heard (r.spanEnd observer span attributes)) r
      (r.closeSpan observer span attributes none) := by
  cases observer with
  | inert =>
    rw [spanEnd, Context.heard_nil]
    exact r.told_adds _
  | tracing time =>
    have htold : (r.told (.ended span attributes none)).spanFields time span
        (textFields attributes) = r.spanFields time span (textFields attributes) := by
      cases time <;> rfl
    have hend := (r.told_adds (.ended span attributes none)).trans (emit_adds _ span
      ⟨.debug, "span ended", _, r.sorted_spanFields time span (sorted_textFields attributes)⟩)
    unfold closeSpan
    dsimp only
    rw [htold]
    exact hend

end Realm

namespace Courier

/-- What a delivery says after its last send, by how the send and the delivery came out. If the
deadline comes in a wait, nothing is said of it. -/
inductive Parting (request : OutboundRequest) (number : Nat) :
    Outcome Exchange → Outcome Exchange → List Saying → Prop
  | done {outcome : Outcome Exchange} :
      (∀ x, outcome = .returned x → x.isRetryable = false) →
      Parting request number outcome outcome []
  | exhausted {x : Exchange} :
      x.isRetryable = true →
      Parting request number (.returned x) (.returned x) [.exhausted request x]
  | overdue {x : Exchange} {delay : Duration} :
      x.isRetryable = true → Parting request number (.returned x) .hung [.retrying x delay]
  | abandoned {x : Exchange} {delay : Duration} :
      x.isRetryable = true →
      Parting request number (.returned x)
        (.returned { x with error := some (.cancelled (.ofNat number)) })
        [.retrying x delay, .abandoned]

variable {d : Courier} {deadline : Option Nat} {t : Transport σ} {c : ContextId}
  {request : OutboundRequest} {left number : Nat} {backoff : Duration} {r r' : Realm σ}
  {sends : List (Sending σ)} {outcome : Outcome Exchange}

/-- When an attempt is over, its caller is what it was, with the number of the attempt. -/
theorem context_closed (d : Courier) (ht : Transport.Sparing t) (hc : c < r.contexts.size)
    {s : Sending σ} (hs : s = sending t c request number r) :
    c < (s.closed d).contexts.size ∧ ((s.closed d).context c).awake =
      ((r.context c).setLogValue Key.attempt (.ofNat number)).awake := by
  have hlt := Nat.lt_of_lt_of_le hc (r.setLogValue_quiet c Key.attempt (.ofNat number)).size_le
  have hspares : Realm.Spares (r.setLogValue c Key.attempt (.ofNat number)) (s.closed d) := by
    have htried : Realm.Spares _ (d.attempt t c request _).2 :=
      attempt_spares ht (r.setLogValue c Key.attempt (.ofNat number))
    rw [attempt_eq, ← hs] at htried
    exact htried
  refine ⟨Nat.lt_of_lt_of_le hlt hspares.size_le, (hspares.awake_eq c hlt).trans ?_⟩
  rw [Realm.setLogValue, r.context_update_self hc]

/-- A wait after an attempt is told of through the caller, and nothing else is logged. -/
theorem heard_wait {s : Realm σ} {x : Context} (hx : (s.context c).awake = x.awake)
    (ex : Exchange) (delay : Duration) :
    Realm.Adds (x.heard [.retrying ex delay]) s
      ((logRetry c ex delay s).wait d.time c delay).2 := by
  have hlog := (Realm.Adds.refl s).heard hx (s.emit_adds c (.retrying ex delay))
  have hwait := hlog.trans (Realm.wait_adds _ d.time c delay)
  rw [List.append_nil] at hwait
  exact hwait

namespace Trail

/-- **When an attempt is over** the caller is what it was before the delivery, with the number of
the attempt. -/
theorem numbered (ht : Transport.Sparing t) (hc : c < r.contexts.size)
    (h : Trail d deadline t c request left number backoff r sends outcome r') {i : Nat}
    {s : Sending σ} (hi : sends[i]? = some s) :
    c < (s.closed d).contexts.size ∧ ((s.closed d).context c).awake =
      ((r.context c).setLogValue Key.attempt (.ofNat (number + i))).awake := by
  refine getElem?_induction (P := fun i s => c < (s.closed d).contexts.size ∧
    ((s.closed d).context c).awake =
      ((r.context c).setLogValue Key.attempt (.ofNat (number + i))).awake) ?_ ?_ hi
  · intro s hs
    exact context_closed d ht hc (h.eq_of_getElem?_zero hs)
  · rintro i s next hs hnext ⟨hlt, hbefore⟩
    obtain ⟨x, delay, w, -, -, -, hw, -, hsent⟩ := h.next_eq hs hnext
    have hwaited : Realm.Spares (s.closed d) w.2 := by
      rw [hw]
      exact (Realm.log_spares ..).trans (Realm.wait_spares ..)
    obtain ⟨hlt', hafter⟩ := context_closed d ht (Nat.lt_of_lt_of_le hlt hwaited.size_le) hsent
    refine ⟨hlt', hafter.trans ?_⟩
    exact Context.awake_setLogValue ((hwaited.awake_eq c hlt).trans hbefore) _

/-- **Between two sends** a delivery tells of the wait between them, and of nothing else. -/
theorem heard_next (ht : Transport.Sparing t) (hc : c < r.contexts.size)
    (h : Trail d deadline t c request left number backoff r sends outcome r') {i : Nat}
    {s next : Sending σ} (hi : sends[i]? = some s) (hnext : sends[i + 1]? = some next) :
    ∃ x delay w, s.outcome = .returned x ∧ next = sending t c request (number + i + 1) w ∧
      Realm.Adds (((r.context c).setLogValue Key.attempt (.ofNat (number + i))).heard
        [.retrying x delay]) (s.closed d) w := by
  obtain ⟨x, delay, w, hx, -, -, hw, -, hsent⟩ := h.next_eq hi hnext
  refine ⟨x, delay, w.2, hx, hsent, ?_⟩
  rw [hw]
  exact heard_wait (h.numbered ht hc hi).2 x delay

/-- **After the last send** a delivery tells how it ends. -/
theorem heard_last (ht : Transport.Sparing t) (hc : c < r.contexts.size)
    (h : Trail d deadline t c request left number backoff r sends outcome r') {s : Sending σ}
    (hlast : sends.getLast? = some s) {x : Context}
    (hx : x = (r.context c).setLogValue Key.attempt (.ofNat (number + (sends.length - 1)))) :
    (∃ sayings, Parting request (number + (sends.length - 1)) s.outcome outcome sayings ∧
      Realm.Adds (x.heard sayings) (s.closed d) r') ∧
      c < r'.contexts.size ∧ (r'.context c).awake = x.awake := by
  have hplace : sends[sends.length - 1]? = some s := by
    rw [← List.getLast?_eq_getElem?]
    exact hlast
  obtain ⟨hlt, hcontext⟩ := h.numbered ht hc hplace
  rw [← hx] at hcontext
  have hsaid : ∃ sayings, Parting request (number + (sends.length - 1)) s.outcome outcome sayings ∧
      Realm.Adds (x.heard sayings) (s.closed d) r' := by
    obtain ⟨hend, hout, rfl⟩ | ⟨y, hy, hretry, ⟨-, hout, rfl⟩ |
      ⟨-, delay, w, -, rfl, ⟨-, hout, rfl⟩ | ⟨-, -, hout, rfl⟩⟩⟩ := h.getLast?_cases hlast
    · rw [hout]
      refine ⟨[], .done hend, ?_⟩
      rw [Context.heard_nil]
      exact .refl _
    · rw [hy, hout]
      refine ⟨_, .exhausted hretry, ?_⟩
      exact (Realm.Adds.refl _).heard hcontext (Realm.emit_adds _ c (.exhausted request y))
    · rw [hy, hout]
      refine ⟨[.retrying y delay, .abandoned], .abandoned hretry, ?_⟩
      have hwait := heard_wait (d := d) hcontext y delay
      have hend := hwait.heard ((hwait.awake_eq c hlt).trans hcontext)
        (Realm.emit_adds _ c .abandoned)
      rw [← Context.heard_append] at hend
      exact hend
    · rw [hy, hout]
      exact ⟨_, .overdue hretry, heard_wait (d := d) hcontext y delay⟩
  obtain ⟨sayings, hparting, hadds⟩ := hsaid
  exact ⟨⟨sayings, hparting, hadds⟩, Nat.lt_of_lt_of_le hlt hadds.size_le,
    (hadds.awake_eq c hlt).trans hcontext⟩

end Trail
end Courier

/-! ## The transports of this library -/

theorem Script.send_sparing : Transport.Sparing Script.send := by
  have hbears : Script.Bears Realm.Spares :=
    ⟨Realm.Spares.trans, fun h _ => .of_contexts_eq h, Realm.cancel_spares⟩
  intro span request r
  have hsent := Script.bears_send hbears span request r
  exact ⟨hsent.size_le, fun c hc _ => hsent.awake_eq c hc⟩

theorem HttpClient.send_sparing : Transport.Sparing HttpClient.send := by
  intro span request r
  have hsent : Realm.Spares r (HttpClient.send span request r).2 := by
    unfold HttpClient.send
    exact .of_contexts_eq rfl
  exact ⟨hsent.size_le, fun c hc _ => hsent.awake_eq c hc⟩

end EventRelay
