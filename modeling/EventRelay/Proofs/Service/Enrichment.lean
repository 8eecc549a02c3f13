import EventRelay.Proofs.Delivery.Sayings
import EventRelay.Proofs.Service.Bearing
import EventRelay.Proofs.Service.Decision
import EventRelay.Proofs.Service.LogValues

/-!
# What the records of a forwarded event show

All that the service logs of an event from its first send on it logs through the span of the event,
when a send is over and before the next one. Each of these records shows the number of the sends so
far, what the settings find in the payload, the tenant, the partner and the path of the request, as
far as it has no field of its own of the name.

* `Service.Forwarding`: an event that is forwarded. `judged_eq`, `forward_eq`: what is done for it.
* `Service.reproofs`, `Service.departing`: what is said of an exchange and of the end of a span.
* `Forwarding.Recounted`: all that is said from the first send on.
* `Service.Enriched`: what a record shows beside its own fields.
* `Forwarding.records_enriched`: the records of a forwarded event, for every observer and every
  transport that writes to no context but that of the send.
-/

namespace EventRelay

namespace Service

variable {σ : Type}

/-! ## What is said after a delivery -/

/-- What is said of an exchange that is not passed on as a success. -/
def reproofs (x : Exchange) : List Saying :=
  match x.error with
  | some error => [.texts .error "delivery failed" [("error", error.message)]]
  | none =>
    if 200 ≤ x.status && x.status ≤ 299 then []
    else [.texts .warn "downstream rejected event" [("status", toString x.status.toNat)]]

/-- What is said when the span of a request ends with an answer. -/
def departing (service : Service σ) (request : Http.Request) (span : ContextId) (started : UInt64)
    (response : Http.Response) (r : Realm σ) : List Saying :=
  let response := response.withCorrelation service.home.settings.transactionHeader
    (r.context span).id
  let attributes := departureAttributes service.home.settings request response
  let observer := r.observerOf span
  let value := Courier.metricOf (r.clock.millisSince started)
  Saying.ofMetric observer MetricName.httpHandleDuration attributes value ++
    (r.measure observer span MetricName.httpHandleDuration attributes value).spanEnd observer span
      attributes

theorem settle_adds (span : ContextId) (payload : ByteArray) (x : Exchange) (r : Realm σ) :
    Realm.Adds [] r (settle span payload x r) := by
  unfold settle Realm.forget
  split
  · split
    · split
      · exact ⟨.of_contexts_eq rfl, (List.append_nil _).symm⟩
      · exact .refl r
    · exact .refl r
  · exact .refl r

theorem logExchange_adds (span : ContextId) (x : Exchange) (r : Realm σ) :
    Realm.Adds ((r.context span).heard (reproofs x)) r (logExchange span x r) := by
  unfold reproofs logExchange
  cases x.error with
  | some error =>
    exact r.emit_adds span (.texts .error "delivery failed" [("error", error.message)])
  | none =>
    dsimp only
    split
    · rw [Context.heard_nil]
      exact .refl r
    · exact r.emit_adds span
        (.texts .warn "downstream rejected event" [("status", toString x.status.toNat)])

theorem depart_adds (service : Service σ) (request : Http.Request) {span : ContextId}
    (started : UInt64) (response : Http.Response) {r : Realm σ} (hspan : span < r.contexts.size) :
    Realm.Adds ((r.context span).heard (service.departing request span started response r)) r
      (service.depart request span started response r).2 := by
  unfold departing depart
  dsimp only
  rw [Context.heard_append]
  have hmeasured := r.measure_adds (r.observerOf span) span MetricName.httpHandleDuration
    (departureAttributes service.home.settings request (response.withCorrelation
      service.home.settings.transactionHeader (r.context span).id))
    (Courier.metricOf (r.clock.millisSince started))
  exact hmeasured.heard (hmeasured.awake_eq span hspan) (Realm.closeSpan_adds _ _ span _)

/-! ## An event that is forwarded -/

/-- An event that is forwarded: it was posted to the route of events and could be read, there is an
endpoint and a transport for it, and the cache does not report its payload. -/
structure Forwarding (σ : Type) where
  service : Service σ
  request : Http.Request
  payload : ByteArray
  realm : Realm σ
  method_eq : request.method = "POST"
  path_eq : request.path = eventsRoute
  asked_eq : service.asked? request = some payload
  not_reports : ¬ realm.Reports service.home.root payload
  hasTransport_eq : (realm.context service.home.root).hasTransport = true

namespace Forwarding

variable (f : Forwarding σ)

/-- The settings in force. -/
def settings : Settings := f.service.home.settings

/-- The realm in which the handler starts: the context of the request was made, and a catch was
entered. -/
def opened : Realm σ := (f.service.openRequest f.request f.realm).2.enter

/-- The span of the event. -/
def span : ContextId := f.opened.contexts.size

/-- The realm in which the body is about to be read. -/
def arrived : Realm σ := (f.service.arrive (some f.realm.contexts.size) f.request f.opened).2

/-- The realm in which the delivery starts: the payload is noted, and the cache was asked about
it. -/
def start : Realm σ := ((notePayload f.settings f.payload f.span f.arrived).isDuplicate f.span
  f.payload).2

/-- What is sent. -/
def outbound : OutboundRequest :=
  relayedRequest f.settings f.request (f.start.context f.span).id f.payload

/-- When the time for the request is over. -/
def deadline : Nat := deadlineFrom f.realm

/-- The service at work on the event. -/
def timed : Service σ := f.service.before f.deadline

/-- What the event is sent through until then. -/
def transport : Transport σ := f.service.transport.before (some f.deadline)

/-- The sends for the event. -/
def sends : List (Sending σ) :=
  f.service.courier.sendingsBefore (some f.deadline) f.service.transport f.span f.outbound f.start

/-- How the delivery comes out, and the realm that it leaves. -/
def delivered : Outcome Exchange × Realm σ :=
  f.service.courier.retryBefore (some f.deadline) f.service.transport f.span f.outbound f.start

/-- The context of the span after a number of sends, apart from whether the work was abandoned. -/
def caller (number : Nat) : Context :=
  (f.start.context f.span).setLogValue Key.attempt (.ofNat number)

/-- The realm that the service leaves. -/
def finish : Realm σ := (f.service.serve none f.request f.realm).2

/-! ### Before the delivery -/

theorem arrived_quiet : Realm.Quiet f.realm f.arrived :=
  ((f.service.openRequest_quiet f.request f.realm).trans (Realm.enter_quiet _)).trans
    (f.service.arrive_quiet _ f.request f.opened)

theorem span_lt_arrived : f.span < f.arrived.contexts.size := by
  unfold span arrived
  exact (f.service.hasChecker_arrive (some f.realm.contexts.size) f.request f.opened).1

theorem handles_arrived :
    (f.arrived.context f.span).handles = (f.realm.context f.service.home.root).handles :=
  (f.service.handles_arrive (some f.realm.contexts.size) f.request f.opened).trans
    (f.service.handles_openRequest f.request f.realm)

theorem context_start :
    f.start.context f.span = (notePayload f.settings f.payload f.span f.arrived).context f.span :=
  Realm.context_isDuplicate _ f.span f.span f.payload

/-- The delivery starts in time. -/
theorem inTime_start : f.start.isLate (some f.deadline) = false :=
  isLate_deadlineFrom ((Realm.time_isDuplicate _ f.span f.payload).2.trans
    ((notePayload_quiet f.settings f.payload f.span f.arrived).millis_eq.trans
      f.arrived_quiet.millis_eq))

theorem span_lt_start : f.span < f.start.contexts.size :=
  Nat.lt_of_lt_of_le f.span_lt_arrived ((notePayload_quiet f.settings f.payload f.span
    f.arrived).size_le.trans (Realm.isDuplicate_extends _ f.span f.payload).size_le)

theorem hasTransport_start : (f.start.context f.span).hasTransport = true := by
  have hhandles : (f.start.context f.span).handles =
      (f.realm.context f.service.home.root).handles := by
    rw [f.context_start, (notePayload_quiet ..).handles_eq _ f.span_lt_arrived, f.handles_arrived]
  have htransport := f.hasTransport_eq
  unfold Context.hasTransport Context.handle? at htransport ⊢
  rw [hhandles]
  exact htransport

/-- The cache does not report the payload when it is asked. -/
theorem isDuplicate_eq : (notePayload f.settings f.payload f.span f.arrived).isDuplicate f.span
    f.payload = (false, f.start) := by
  have hreports : (notePayload f.settings f.payload f.span f.arrived).Reports f.span f.payload ↔
      f.realm.Reports f.service.home.root f.payload :=
    (reports_notePayload f.settings f.payload f.span f.arrived).trans (Realm.Reports.congr
      f.arrived_quiet.checker_eq f.arrived_quiet.clock_eq f.handles_arrived)
  have hnew : ((notePayload f.settings f.payload f.span f.arrived).isDuplicate f.span
      f.payload).1 = false :=
    Bool.eq_false_iff.2 fun h => f.not_reports (hreports.1 (Realm.isDuplicate_eq_true_iff.1 h))
  exact Prod.ext hnew rfl

/-! ### What is done for it -/

/-- The event is delivered. -/
theorem decide_eq : f.timed.decide f.request f.span f.arrived =
    f.timed.forward f.request f.span f.payload f.start := by
  obtain ⟨hend, hread⟩ := asked?_eq_some_iff.1 f.asked_eq
  have hnew := f.isDuplicate_eq
  unfold settings at hnew
  simp only [decide, timed, before, hread, hend, hnew, Bool.false_eq_true, if_false]

/-- What becomes of the exchange of its delivery. -/
theorem forward_eq : f.timed.forward f.request f.span f.payload f.start =
    match f.delivered with
    | (.returned x, r) =>
      (.returned (.forwarded x), logExchange f.span x (settle f.span f.payload x r))
    | (.panicked panic, r) => (.panicked panic, r)
    | (.hung, r) => (.hung, r) := by
  have hsend : f.service.courier.sendBefore (some f.deadline) f.service.transport f.span
      f.outbound f.start = f.delivered := if_pos f.hasTransport_start
  rw [← hsend]
  rfl

/-- What the handler does for it. -/
theorem ingest_eq : f.timed.ingest (some f.realm.contexts.size) f.request f.opened =
    match f.delivered with
    | (.returned x, r) =>
      let (response, r) := f.service.depart f.request f.span f.opened.clock.elapsed
        (Verdict.forwarded x).response (logExchange f.span x (settle f.span f.payload x r))
      (.returned response, r)
    | (.panicked panic, r) => (.panicked panic, r)
    | (.hung, r) => (.hung, r) := by
  have hdecide := f.decide_eq.trans f.forward_eq
  unfold span arrived at hdecide
  unfold timed at hdecide ⊢
  unfold ingest
  dsimp only
  rw [arrive_before, f.service.arrive_fst, hdecide]
  generalize f.delivered = delivered
  obtain ⟨outcome, s⟩ := delivered
  cases outcome <;> rfl

/-- The realm that the service leaves is that of the handler, or that at the deadline, out of the
catch around it. -/
theorem finish_eq : f.finish = match f.delivered with
    | (.returned x, r) => (f.service.depart f.request f.span f.opened.clock.elapsed
        (Verdict.forwarded x).response (logExchange f.span x (settle f.span f.payload x r))).2.leave
    | (.panicked panic, r) => r.leave.reportPanic f.realm.contexts.size panic
    | (.hung, r) => { r with systemMillis := f.deadline }.leave := by
  have hingest := f.ingest_eq
  unfold timed deadline opened at hingest
  unfold finish serve
  rw [containingPanics_snd]
  unfold Realm.contain withTimeLimit
  dsimp only
  rw [deadlineFrom_openRequest, routes_serve_eq f.method_eq f.path_eq, hingest]
  generalize f.delivered = delivered
  obtain ⟨outcome, s⟩ := delivered
  cases outcome <;> rfl

/-! ### What is said of it -/

/-- What is said through the span of a forwarded event from its first send on: between two sends
that another one follows after a wait, after the last one how the delivery ends, then of its
exchange and of the end of the span. Without an exchange nothing more is said through the span. -/
structure Recounted : Prop where
  first : ∃ s, f.sends[0]? = some s ∧ s.IsAttempt f.transport f.span f.outbound 1 f.start
  next : ∀ i s next, f.sends[i]? = some s → f.sends[i + 1]? = some next →
    ∃ x delay w, s.outcome = .returned x ∧
      Realm.Adds ((f.caller (i + 1)).heard [.retrying x delay]) (s.closed f.service.courier) w ∧
      next.IsAttempt f.transport f.span f.outbound (i + 2) w
  last : ∃ s parting, f.sends.getLast? = some s ∧
    Courier.Parting f.outbound f.sends.length s.outcome f.delivered.1 parting ∧
    Realm.Adds ((f.caller f.sends.length).heard parting) (s.closed f.service.courier) f.delivered.2
  returned : ∀ x, f.delivered.1 = .returned x → ∃ w r,
    Realm.Adds ((f.caller f.sends.length).heard (reproofs x)) f.delivered.2 w ∧
      Realm.Adds ((f.caller f.sends.length).heard (f.service.departing f.request f.span
        f.opened.clock.elapsed (Verdict.forwarded x).response w)) w r ∧ f.finish = r.leave
  panicked : ∀ panic, f.delivered.1 = .panicked panic →
    f.finish = f.delivered.2.leave.reportPanic f.realm.contexts.size panic
  hung : f.delivered.1 = .hung → f.finish = { f.delivered.2 with systemMillis := f.deadline }.leave

theorem recounted (ht : Transport.Sparing f.service.transport) : f.Recounted := by
  have htrail := Courier.trail_retryBefore f.service.courier (some f.deadline) f.service.transport
    f.span f.outbound f.start f.inTime_start
  have ht := Transport.Sparing.before ht (some f.deadline)
  have hspan := f.span_lt_start
  have hfirst := htrail.getElem?_zero
  have hpos : 0 < f.sends.length := (List.getElem?_eq_some_iff.1 hfirst).1
  obtain ⟨last, hlast⟩ : ∃ s, f.sends.getLast? = some s :=
    ⟨_, List.getLast?_eq_some_getLast (List.ne_nil_of_length_pos hpos)⟩
  have hnumber : 1 + (f.sends.length - 1) = f.sends.length := Nat.add_sub_cancel' hpos
  have hcaller : f.caller f.sends.length = (f.start.context f.span).setLogValue Key.attempt
      (.ofNat (1 + (f.sends.length - 1))) := by
    rw [hnumber]
    rfl
  obtain ⟨⟨parting, hparting, hparted⟩, hlt, hcontext⟩ := htrail.heard_last ht hspan hlast hcaller
  have hparting : Courier.Parting f.outbound f.sends.length last.outcome f.delivered.1 parting :=
    hnumber ▸ hparting
  have hfinish := f.finish_eq
  refine ⟨⟨_, hfirst, Courier.sending_isAttempt ..⟩, fun i s next hi hnext => ?_,
    ⟨last, parting, hlast, hparting, hparted⟩, fun x hx => ?_, fun panic hpanic => ?_,
    fun hhung => ?_⟩
  · obtain ⟨x, delay, w, hx, hsent, hadds⟩ := htrail.heard_next ht hspan hi hnext
    rw [Nat.add_comm 1 i] at hadds hsent
    refine ⟨x, delay, w, hx, hadds, ?_⟩
    rw [hsent]
    exact Courier.sending_isAttempt ..
  · have hsettled := settle_adds f.span f.payload x f.delivered.2
    have hreproved := hsettled.heard ((hsettled.awake_eq f.span hlt).trans hcontext)
      (logExchange_adds f.span x _)
    have hlt' := Nat.lt_of_lt_of_le hlt hreproved.size_le
    have hdeparted := (Realm.Adds.refl _).heard
      ((hreproved.awake_eq f.span hlt).trans hcontext)
      (f.service.depart_adds f.request f.opened.clock.elapsed (Verdict.forwarded x).response hlt')
    refine ⟨_, _, hreproved, hdeparted, hfinish.trans ?_⟩
    rw [show f.delivered = (.returned x, f.delivered.2) from Prod.ext hx rfl]
  · rw [hfinish, show f.delivered = (.panicked panic, f.delivered.2) from Prod.ext hpanic rfl]
  · rw [hfinish, show f.delivered = (.hung, f.delivered.2) from Prod.ext hhung rfl]

/-! ### What its records show -/

/-- The two parts of the tenant text of the request. -/
def tenant : Tenant :=
  Tenant.split ((f.request.headers.text? f.settings.tenantHeader).getD "") f.settings.allowPartner
    f.settings.partnerInForce

/-- What a record shows after a number of sends, beside the fields that it has of its own: the
number; what the settings find in the payload; and over these names what else is noted: the tenant,
the partner of the header, or else of the tenant text, and none of the request if partners are not
allowed, and the path. -/
structure Enriched (number : Nat) (own : Entries Json) (record : LogRecord) : Prop where
  attempt : Entries.find? Key.attempt own = none →
    Entries.find? Key.attempt record.fields = some (.ofNat number)
  field : ∀ name path document value, (name, path) ∈ f.settings.logParams → name ≠ Key.attempt →
    documentOf f.payload = some document → document.lookup path = some value →
    Entries.find? name own = none →
    Entries.find? name record.fields = some (.str value.flatText)
  tenant : f.tenant.appId ≠ "" → Entries.find? Key.tenantId own = none →
    fieldOf? f.settings f.payload Key.tenantId = none →
    Entries.find? Key.tenantId record.fields = some (.str f.tenant.appId)
  partner_named : ∀ partner, f.settings.allowPartner = true →
    f.request.headers.nonEmpty? f.settings.partnerHeader = some partner →
    Entries.find? Key.partnerId own = none →
    fieldOf? f.settings f.payload Key.partnerId = none →
    Entries.find? Key.partnerId record.fields = some (.str partner)
  partner_split : (f.settings.allowPartner = true →
      f.request.headers.nonEmpty? f.settings.partnerHeader = none) → f.tenant.partnerId ≠ "" →
    Entries.find? Key.partnerId own = none →
    fieldOf? f.settings f.payload Key.partnerId = none →
    Entries.find? Key.partnerId record.fields = some (.str f.tenant.partnerId)
  partner_withheld : f.settings.allowPartner = false → Entries.find? Key.partnerId own = none →
    fieldOf? f.settings f.payload Key.partnerId = none →
    Entries.find? Key.partnerId record.fields =
      (f.realm.context f.service.home.root).logValue? Key.partnerId
  route : Entries.find? Key.route own = none → fieldOf? f.settings f.payload Key.route = none →
    Entries.find? Key.route record.fields = some (.str f.request.path)

theorem appId_tenantOf : (tenantOf f.settings f.request).appId = f.tenant.appId := by
  unfold tenantOf tenant
  dsimp only
  split <;> rfl

/-- Unless partners are allowed and have a header of their own, the partner is that of the tenant
text. -/
theorem partnerId_tenantOf (h : f.settings.allowPartner = true →
    f.request.headers.nonEmpty? f.settings.partnerHeader = none) :
    (tenantOf f.settings f.request).partnerId = f.tenant.partnerId := by
  unfold tenantOf tenant
  dsimp only
  split
  · next partner hallow hpartner =>
    rw [h hallow] at hpartner
    cases hpartner
  · rfl

theorem partnerId_tenantOf_named {partner : String} (hallow : f.settings.allowPartner = true)
    (hpartner : f.request.headers.nonEmpty? f.settings.partnerHeader = some partner) :
    (tenantOf f.settings f.request).partnerId = partner ∧ partner ≠ "" := by
  unfold tenantOf
  rw [hallow, hpartner]
  refine ⟨rfl, ?_⟩
  unfold Http.Headers.nonEmpty? at hpartner
  simpa using (Option.filter_eq_some_iff.1 hpartner).2

variable {f}

/-- Before its payload is noted the span has what is noted of the request, over what the root
has. -/
theorem logValue?_arrived {name : String} (hname : name ≠ Key.traceId) :
    (f.arrived.context f.span).logValue? name =
      if (tenantOf f.settings f.request).partnerId ≠ "" ∧ name = Key.partnerId then
        some (.str (tenantOf f.settings f.request).partnerId)
      else if (tenantOf f.settings f.request).appId ≠ "" ∧ name = Key.tenantId then
        some (.str (tenantOf f.settings f.request).appId)
      else if name = Key.route then some (.str f.request.path)
      else (f.realm.context f.service.home.root).logValue? name := by
  have hopened := f.service.logValue?_openRequest f.request f.realm hname
  have harrived := f.service.logValue?_arrive (some f.realm.contexts.size) f.request f.opened hname
  rw [Option.getD_some] at harrived
  rw [← hopened]
  exact harrived

/-- Under a name that it has no field of, a record shows what the payload holds, or else what was
noted before. -/
theorem find?_entry (hnames : (f.settings.logParams.map Prod.fst).Nodup) {number : Nat}
    {saying : Saying} {name : String} (hname : name ≠ Key.attempt)
    (hown : Entries.find? name saying.fields = none) :
    Entries.find? name ((f.caller number).entry saying).2.fields =
      ((fieldOf? f.settings f.payload name).map .str).or
        ((f.arrived.context f.span).logValue? name) := by
  have hcaller : (f.caller number).logValue? name = (f.start.context f.span).logValue? name :=
    Entries.find?_insert_of_ne hname _ _
  rw [Context.find?_entry, hown, Option.none_or, hcaller, f.context_start,
    logValue?_notePayload hnames f.span_lt_arrived]

/-- Under a name that the payload does not bring along, a record shows what was noted before. -/
theorem find?_entry_of_none (hnames : (f.settings.logParams.map Prod.fst).Nodup) {number : Nat}
    {saying : Saying} {name : String} (hname : name ≠ Key.attempt)
    (hown : Entries.find? name saying.fields = none)
    (hnone : fieldOf? f.settings f.payload name = none) :
    Entries.find? name ((f.caller number).entry saying).2.fields =
      (f.arrived.context f.span).logValue? name := by
  rw [find?_entry hnames hname hown, hnone, Option.map_none, Option.none_or]

/-- **Enrichment.** Whatever is said through the span of a forwarded event, the record that it
leaves shows what is noted of the event. -/
theorem enriched (hnames : (f.settings.logParams.map Prod.fst).Nodup) (number : Nat)
    (saying : Saying) :
    f.Enriched number saying.fields ((f.caller number).entry saying).2 where
  attempt hown := by
    rw [Context.find?_entry, hown, Option.none_or]
    exact Entries.find?_insert_self ..
  field name path document value hparam hname hdocument hvalue hown := by
    have hfield : fieldOf? f.settings f.payload name = some value.flatText := by
      rw [fieldOf?, Entries.find?_eq_some_of_mem hnames hparam, Option.bind_some, hdocument,
        Option.bind_some, hvalue]
      rfl
    rw [find?_entry hnames hname hown, hfield, Option.map_some, Option.some_or]
  tenant happ hown hnone := by
    rw [find?_entry_of_none hnames (by decide) hown hnone, logValue?_arrived (by decide),
      if_neg (fun h => absurd h.2 (by decide)), f.appId_tenantOf, if_pos ⟨happ, rfl⟩]
  partner_named partner hallow hpartner hown hnone := by
    obtain ⟨hnamed, hnonempty⟩ := f.partnerId_tenantOf_named hallow hpartner
    rw [find?_entry_of_none hnames (by decide) hown hnone, logValue?_arrived (by decide), hnamed,
      if_pos ⟨hnonempty, rfl⟩]
  partner_split hsplit hpartner hown hnone := by
    rw [find?_entry_of_none hnames (by decide) hown hnone, logValue?_arrived (by decide),
      f.partnerId_tenantOf hsplit, if_pos ⟨hpartner, rfl⟩]
  partner_withheld hwithheld hown hnone := by
    have hempty : (tenantOf f.settings f.request).partnerId = "" := by
      rw [f.partnerId_tenantOf fun hallow => absurd (hallow.symm.trans hwithheld) (by decide),
        tenant, hwithheld]
      rfl
    rw [find?_entry_of_none hnames (by decide) hown hnone, logValue?_arrived (by decide), hempty,
      if_neg (fun h => h.1 rfl), if_neg (fun h => absurd h.2 (by decide)), if_neg (by decide)]
  route hown hnone := by
    rw [find?_entry_of_none hnames (by decide) hown hnone, logValue?_arrived (by decide),
      if_neg (fun h => absurd h.2 (by decide)), if_neg (fun h => absurd h.2 (by decide)),
      if_pos rfl]

/-- **Records.** From its first send on, the service says of a forwarded event, through the span of
the event, what follows on its sends and how the span ends, and nothing else. Each record that this
leaves shows the number of the sends so far, what the settings find in the payload, and over these
names the tenant, the partner and the path. This does not depend on the order in which the settings
list what they find. -/
theorem records_enriched (f : Forwarding σ) (ht : Transport.Sparing f.service.transport)
    (hnames : (f.settings.logParams.map Prod.fst).Nodup) :
    f.Recounted ∧
      (∀ number saying,
        f.Enriched number saying.fields ((f.caller number).entry saying).2) ∧
      ∀ other, f.settings.logParams.Perm other →
        (f.service.relisted other).serve = f.service.serve :=
  ⟨f.recounted ht, enriched hnames, fun _ hperm => serve_relisted f.service hperm hnames⟩

/-- A service that tries twice, allows partners, and logs two fields of an order, one of them under
the name of the path. -/
def shipping : Service Script :=
  .of ⟨0, { Settings.zero with
    endpoint := "http://down.test/", maxAttempts := 2, allowPartner := true,
    logParams := [("route", "order.via"), ("order", "order.id")] }, "test"⟩ Script.send

/-- A realm whose root has a transport and an observer that logs. What lies downstream is busy at
the first send and rejects the second one. -/
def rejecting : Realm Script :=
  (((Realm.start (.startingAt 0) (fun n => n) (fun _ => "trace")
    (.ofExchanges [.response 503 .empty, .response 404 .empty] [])).addRoot .kept).2.setHandle 0
      Key.httpTransport .transport).setHandle 0 Key.observer (.observer (.tracing .shared))

/-- An order of a tenant with a partner. -/
def shipment : Http.Request :=
  ⟨"POST", eventsRoute, "", .ofTexts [("x-tenant-id", "acme_west")],
    "\x7b\"order\":\x7b\"id\":9,\"via\":\"sea\"\x7d\x7d".toUTF8, none⟩

/-- The order is forwarded, and rejected. -/
def rejected : Forwarding Script where
  service := shipping
  request := shipment
  payload := shipment.body
  realm := rejecting
  method_eq := rfl
  path_eq := rfl
  asked_eq := by decide
  not_reports := fun ⟨_, hcache, _⟩ => by cases hcache
  hasTransport_eq := by decide

theorem records_enriched_rejected :
    rejected.sends.length = 2 ∧
      rejected.finish.journal.toList.map (·.2.message) = ["span started", "span started",
        "metric recorded", "span ended", "retrying request", "span started", "metric recorded",
        "span ended", "downstream rejected event", "metric recorded", "span ended"] ∧
      ∃ earlier entry later, rejected.finish.journal.toList = earlier ++ entry :: later ∧
        entry.2.message = "downstream rejected event" ∧
        Entries.find? "attempt" entry.2.fields = some (.ofNat 2) ∧
        Entries.find? "order" entry.2.fields = some (.str "9") ∧
        Entries.find? "route" entry.2.fields = some (.str "sea") ∧
        Entries.find? "Eel.TenantId" entry.2.fields = some (.str "acme") ∧
        Entries.find? "Eel.PartnerId" entry.2.fields = some (.str "west") := by
  obtain ⟨hrecounted, henriched, -⟩ :=
    records_enriched rejected Script.send_sparing (by decide)
  have hsent : rejected.sends.length = 2 := by decide +kernel
  have hreturned : rejected.delivered.1 = .returned (.response 404 .empty) := by decide +kernel
  obtain ⟨w, r, hsaid, hdeparted, hfinish⟩ := hrecounted.returned _ hreturned
  obtain ⟨saying, hsaying⟩ : ∃ saying, saying =
    Saying.texts .warn "downstream rejected event" [("status", "404")] := ⟨_, rfl⟩
  have hheard : (rejected.caller 2).heard (reproofs (.response 404 .empty)) =
      [(rejected.caller 2).entry saying] := by
    rw [hsaying]
    exact if_pos (by decide +kernel)
  rw [hsent, hheard] at hsaid
  have hjournal : ∃ earlier later, rejected.finish.journal.toList =
      earlier ++ (rejected.caller 2).entry saying :: later := by
    have hended := (hsaid.trans hdeparted).journal_eq
    rw [List.singleton_append] at hended
    exact ⟨_, _, (congrArg (fun s => s.journal.toList) hfinish).trans hended⟩
  obtain ⟨earlier, later, hjournal⟩ := hjournal
  have hown : ∀ name ∈ ["attempt", "order", "route", "Eel.TenantId", "Eel.PartnerId"],
      Entries.find? name saying.fields = none := by
    rw [hsaying]
    decide
  have hdocument : documentOf rejected.payload = some (.obj [("order", .obj [("id", .ofNat 9),
    ("via", .str "sea")])]) := by decide +kernel
  have htenant : rejected.tenant = ⟨"acme", "west"⟩ := by decide +kernel
  have hshown := henriched 2 saying
  have happ := hshown.tenant (by decide +kernel) (hown _ (by decide)) (by decide +kernel)
  have hpartner := hshown.partner_split (fun _ => by decide +kernel) (by decide +kernel)
    (hown _ (by decide)) (by decide +kernel)
  rw [htenant] at happ hpartner
  refine ⟨hsent, by decide +kernel, earlier, _, later, hjournal, by rw [hsaying]; rfl,
    hshown.attempt (hown _ (by decide)),
    hshown.field "order" "order.id" _ (.ofNat 9) (by decide) (by decide) hdocument
      (by decide +kernel) (hown _ (by decide)),
    hshown.field "route" "order.via" _ (.str "sea") (by decide) (by decide) hdocument
      (by decide +kernel) (hown _ (by decide)), happ, hpartner⟩

end Forwarding
end Service
end EventRelay
