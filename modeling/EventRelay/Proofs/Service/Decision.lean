import EventRelay.Proofs.Service.Influence

/-!
# In which order an event is decided

An event is turned away for its length before anybody asks where it should go, and for that before
the duplicate cache is asked; only what the cache does not report is sent. This module says what the
service answers in each of these cases, and what it leaves behind.

* `Service.TooLong`, `Realm.Reports`: the two questions, besides that for the endpoint.
* `forward_cases`: the one delivery of an event, and what becomes of its exchange.
* `Service.Relays`: that delivery, within the time for the request, with the sends that it makes.
* `serve_decided`: the answer is the one that was decided.
* `decision_order`: the answers in their order, and what happens to the cache and downstream.
-/

namespace EventRelay

/-! ## The question to the cache -/

/-- A digest that was just asked about is held, if there is a window and room at all. -/
theorem DuplicateCache.find?_check_self {cache : DuplicateCache} (hwindow : cache.windowMs ≠ 0)
    (hroom : 0 < cache.capacity) (digest : String) (now : UInt64) :
    ((cache.check digest now).2.find? digest).isSome = true := by
  rw [check, if_neg hwindow]
  split
  · split
    · rw [find?_put_self _ _ _ hroom]
      rfl
    · rw [find?_put_self _ _ _ hroom]
      rfl
  · rw [find?_put_self _ _ _ hroom]
    rfl

namespace Realm

variable {σ : Type} {r s : Realm σ} {c span : ContextId} {payload : ByteArray}

/-- A context knows of the duplicate cache, and the cache reports a payload. -/
def Reports (r : Realm σ) (c : ContextId) (payload : ByteArray) : Prop :=
  ∃ cache, r.checker = some cache ∧ (r.context c).hasChecker = true ∧
    (cache.check (digestOf payload) r.clock.wall).1 = true

theorem isDuplicate_eq_true_iff : (r.isDuplicate c payload).1 = true ↔ r.Reports c payload := by
  unfold isDuplicate Reports
  cases r.checker with
  | none => simp
  | some cache => cases (r.context c).hasChecker <;> simp

/-- The report depends on the cache, the time and the handles of the context. -/
theorem Reports.congr (hchecker : s.checker = r.checker) (hclock : s.clock = r.clock)
    (hhandles : (s.context span).handles = (r.context c).handles) :
    s.Reports span payload ↔ r.Reports c payload := by
  unfold Reports Context.hasChecker Context.handle?
  rw [hchecker, hclock, hhandles]

end Realm

namespace Service

variable {σ : Type} {service : Service σ} {request : Http.Request}

/-! ## The length of the body -/

/-- The settings limit the length of a body, and that of a request is beyond the limit. -/
def TooLong (service : Service σ) (request : Http.Request) : Prop :=
  service.home.settings.maxMessageSize ≠ 0 ∧
    service.home.settings.maxMessageSize.toNat < request.body.size

/-- A body whose stream does not fail is read unless it is too long. -/
theorem readBody_cases (service : Service σ) (hfault : request.bodyFault = none) :
    (service.TooLong request ∧
      ∃ reason, request.readBody (bodyLimit service.home.settings) = .error reason) ∨
    (¬ service.TooLong request ∧
      request.readBody (bodyLimit service.home.settings) = .ok request.body) := by
  unfold TooLong Http.Request.readBody bodyLimit
  by_cases hnone : service.home.settings.maxMessageSize = 0
  · exact .inr ⟨fun h => h.1 hnone, by simp [hnone, hfault]⟩
  · by_cases hlong : service.home.settings.maxMessageSize.toNat < request.body.size
    · exact .inl ⟨⟨hnone, hlong⟩, _, by simp [hnone, hlong]; rfl⟩
    · exact .inr ⟨fun h => hlong h.2, by simp [hnone, hlong, hfault]⟩

/-! ## The delivery of an event -/

/-- What a context that knows of the cache has it hold after an exchange. -/
theorem checker_settle {r : Realm σ} {span : ContextId} {cache : DuplicateCache}
    (hcache : r.checker = some cache) (hknows : (r.context span).hasChecker = true)
    (payload : ByteArray) (x : Exchange) : (settle span payload x r).checker =
      some (if x.isRetryable then cache.forget (digestOf payload) else cache) := by
  unfold settle
  split
  · exact Realm.checker_forget hcache hknows payload
  · exact hcache

/-- To forward an event is one delivery of the relayed request; its exchange is what becomes of the
event, and without one there is no verdict. -/
theorem forward_cases (service : Service σ) (request : Http.Request) (span : ContextId)
    (payload : ByteArray) (r : Realm σ) :
    ∃ outcome r', service.courier.sendBefore service.deadline service.transport span
        (relayedRequest service.home.settings request (r.context span).id payload) r =
        (outcome, r') ∧
      (service.forward request span payload r).2.downstream = r'.downstream ∧
      ((∃ x, outcome = .returned x ∧
          (service.forward request span payload r).1 = .returned (.forwarded x) ∧
          (service.forward request span payload r).2.checker =
            (settle span payload x r').checker) ∨
        (∃ panic, outcome = .panicked panic ∧
          (service.forward request span payload r).1 = .panicked panic) ∨
        outcome = .hung ∧ (service.forward request span payload r).1 = .hung) := by
  unfold forward
  dsimp only
  generalize service.courier.sendBefore service.deadline service.transport span _ r = sent
  obtain ⟨outcome, r'⟩ := sent
  refine ⟨outcome, r', rfl, ?_⟩
  cases outcome with
  | returned x =>
    have hlog := logExchange_quiet span x (settle span payload x r')
    refine ⟨?_, .inl ⟨x, rfl, rfl, hlog.checker_eq⟩⟩
    refine hlog.downstream_eq.trans ?_
    unfold settle
    split
    · exact Realm.downstream_forget _ _ _
    · rfl
  | panicked panic => exact ⟨rfl, .inr (.inl ⟨panic, rfl, rfl⟩)⟩
  | hung => exact ⟨rfl, .inr (.inr ⟨rfl, rfl⟩)⟩

/-! ## The stages in their order -/

/-- What is recorded of a payload changes no report. -/
theorem reports_notePayload (settings : Settings) (payload : ByteArray) (span : ContextId)
    (s : Realm σ) :
    (notePayload settings payload span s).Reports span payload ↔ s.Reports span payload :=
  have hnote := notePayload_quiet settings payload span s
  Realm.Reports.congr hnote.checker_eq hnote.clock_eq
    (Realm.Alike.handles_eq (notePayload_outline id settings payload span s) span)

/-- **Order.** The length of the body comes before the endpoint, the endpoint before the cache, and
only what is none of the three is forwarded. -/
theorem decide_cases (service : Service σ) (hfault : request.bodyFault = none) (span : ContextId)
    (s : Realm σ) :
    (service.TooLong request ∧
      ∃ s', service.decide request span s = (.returned .unreadable, s') ∧ Realm.Quiet s s') ∨
    ¬ service.TooLong request ∧
      ((service.home.settings.endpoint = "" ∧
        ∃ s', service.decide request span s = (.returned .noEndpoint, s') ∧ Realm.Quiet s s') ∨
      service.home.settings.endpoint ≠ "" ∧
        ((s.Reports span request.body ∧
          ∃ s', service.decide request span s = (.returned .duplicate, s') ∧
            s'.downstream = s.downstream) ∨
        (¬ s.Reports span request.body ∧
          service.decide request span s = service.forward request span request.body
            ((notePayload service.home.settings request.body span s).isDuplicate span
              request.body).2))) := by
  obtain ⟨hlong, reason, hread⟩ | ⟨hfits, hread⟩ := service.readBody_cases hfault
  · exact .inl ⟨hlong, decide_of_unreadable span s hread⟩
  refine .inr ⟨hfits, ?_⟩
  by_cases hend : service.home.settings.endpoint = ""
  · exact .inl ⟨hend, decide_of_noEndpoint span s hread (String.isEmpty_iff.2 hend)⟩
  refine .inr ⟨hend, ?_⟩
  have hempty : service.home.settings.endpoint.isEmpty = false := by simpa using hend
  have hnote := notePayload_quiet service.home.settings request.body span s
  have hiff := Realm.isDuplicate_eq_true_iff.trans
    (reports_notePayload service.home.settings request.body span s)
  obtain ⟨-, hdown⟩ := (notePayload service.home.settings request.body span s).isDuplicate_touches
    span request.body
  simp only [decide, hread, hempty, Bool.false_eq_true, if_false]
  generalize Realm.isDuplicate _ span request.body = asked at hiff hdown ⊢
  obtain ⟨hit, s'⟩ := asked
  cases hit with
  | true =>
    refine .inl ⟨hiff.1 rfl, _, rfl, ?_⟩
    exact (Realm.log_quiet s' _ _ _ _).downstream_eq.trans (hdown.trans hnote.downstream_eq)
  | false => exact .inr ⟨fun hreports => Bool.false_ne_true (hiff.2 hreports), rfl⟩

/-! ## The answer -/

/-- An answer passes an exchange on: its error, or else its body and its status if that can be one
of an answer. -/
structure Mirrors (response : Http.Response) (x : Exchange) : Prop where
  of_error : ∀ error, x.error = some error → response.status = 502 ∧
    response.body = (Json.ofMembers [("error", .str error.message)]).render.toUTF8
  of_body : x.error = none → response.body = x.body ∧
    response.status = if 100 ≤ x.status ∧ x.status ≤ 999 then x.status.toNat else 502

theorem body_faultResponse (status : Nat) (message : String) :
    (Verdict.faultResponse status message).body =
      (Json.ofMembers [("error", .str message)]).render.toUTF8 := by
  simp only [Verdict.faultResponse, Http.Response.ofJson]

theorem mirrors_of_verdict {response : Http.Response} {x : Exchange}
    (hstatus : response.status = (Verdict.forwarded x).response.status)
    (hbody : response.body = (Verdict.forwarded x).response.body) : Mirrors response x := by
  refine ⟨fun error he => ?_, fun he => ?_⟩
  · simp only [Verdict.response, he] at hstatus hbody
    rw [body_faultResponse] at hbody
    exact ⟨hstatus, hbody⟩
  · simp only [Verdict.response, he] at hstatus hbody
    refine ⟨hbody, hstatus.trans ?_⟩
    show Verdict.passedStatus x = _
    unfold Verdict.passedStatus
    simp only [Bool.and_eq_true, decide_eq_true_eq]

/-- The cache that a context knows of holds a payload. -/
def Holds (r : Realm σ) (payload : ByteArray) : Prop :=
  ∃ cache, r.checker = some cache ∧ (cache.find? (digestOf payload)).isSome = true

/-- After its delivery an event is held exactly when its exchange is not worth another try. -/
theorem holds_settle {r : Realm σ} {span : ContextId} {cache : DuplicateCache}
    (hcache : r.checker = some cache) (hknows : (r.context span).hasChecker = true)
    {payload : ByteArray} (hheld : (cache.find? (digestOf payload)).isSome = true) (x : Exchange) :
    Holds (settle span payload x r) payload ↔ x.isRetryable = false := by
  unfold Holds
  rw [checker_settle hcache hknows]
  cases x.isRetryable with
  | true =>
    simp [DuplicateCache.find?_forget_self]
  | false => simp [hheld]

/-- What an event is relayed as. -/
def relayed (service : Service σ) (request : Http.Request) (r : Realm σ) : OutboundRequest :=
  relayedRequest service.home.settings request (service.correlationOf request r) request.body

/-- One delivery of the request that an event is relayed as, in a span with the handles of the
root, at the time of the arrival, and with all the time for a request left. With a transport
registered on the root it sends. -/
def Relays (service : Service σ) (request : Http.Request) (r : Realm σ)
    (outcome : Outcome Exchange) (r' : Realm σ) : Prop :=
  ∃ span s s', service.courier.sendBefore (some (deadlineFrom r)) service.transport span
      (service.relayed request r) s = (outcome, s') ∧
    s.downstream = r.downstream ∧ s.clock = r.clock ∧ s.systemMillis = r.systemMillis ∧
    (s.context span).handles = (r.context service.home.root).handles ∧
    ((r.context service.home.root).hasTransport = true →
      service.courier.Sends (some (deadlineFrom r)) service.transport span
        (service.relayed request r) s) ∧
    r'.downstream = s'.downstream

theorem Relays.congr {r r' s : Realm σ} {outcome : Outcome Exchange}
    (h : service.Relays request r outcome r') (hdown : s.downstream = r'.downstream) :
    service.Relays request r outcome s := by
  obtain ⟨span, before, after, hsend, hstart, hclock, hmillis, hhandles, hsends, hafter⟩ := h
  exact ⟨span, before, after, hsend, hstart, hclock, hmillis, hhandles, hsends,
    hdown.trans hafter⟩

/-- A realm in which no time has passed since a request came in is in time for it. -/
theorem isLate_deadlineFrom {r s : Realm σ} (h : s.systemMillis = r.systemMillis) :
    s.isLate (some (deadlineFrom r)) = false := by
  simpa [Realm.isLate] using lt_deadlineFrom h

/-- What is forwarded is relayed, and its exchange decides what the cache holds. -/
theorem relays_forward (service : Service σ) (request : Http.Request) {span : ContextId}
    {r s : Realm σ} (hspan : span < s.contexts.size) (hquiet : Realm.Quiet r s)
    (hhandles : (s.context span).handles = (r.context service.home.root).handles)
    (hid : (s.context span).id = service.correlationOf request r)
    {forwarded : Outcome Verdict × Realm σ}
    (hforwarded : forwarded = (service.before (deadlineFrom r)).forward request span request.body
      ((notePayload service.home.settings request.body span s).isDuplicate span request.body).2) :
    ∃ outcome, service.Relays request r outcome forwarded.2 ∧
      ((∃ x, outcome = .returned x ∧ forwarded.1 = .returned (.forwarded x) ∧
          (Transport.Retains service.transport →
            (r.context service.home.root).hasChecker = true →
            ∀ cache, r.checker = some cache → cache.windowMs ≠ 0 → 0 < cache.capacity →
              (Holds forwarded.2 request.body ↔ x.isRetryable = false))) ∨
        (∃ panic, outcome = .panicked panic ∧ forwarded.1 = .panicked panic) ∨
        outcome = .hung ∧ forwarded.1 = .hung) := by
  have hnote := notePayload_quiet service.home.settings request.body span s
  have hhandles' := (handles_noted service.home.settings request.body hspan).trans hhandles
  obtain ⟨asked, hasked⟩ : ∃ s', s' = ((notePayload service.home.settings request.body span
    s).isDuplicate span request.body).2 := ⟨_, rfl⟩
  have hid' : (asked.context span).id = service.correlationOf request r := by
    rw [hasked, Realm.context_isDuplicate,
      Realm.Alike.id_eq (notePayload_outline id service.home.settings request.body span s), hid]
  obtain ⟨-, hdown⟩ := (notePayload service.home.settings request.body span
    s).isDuplicate_touches span request.body
  obtain ⟨hclock, hmillis⟩ := (notePayload service.home.settings request.body span
    s).time_isDuplicate span request.body
  rw [← hasked] at hhandles' hdown hclock hmillis hforwarded
  have hstart : asked.systemMillis = r.systemMillis :=
    hmillis.trans (hnote.millis_eq.trans hquiet.millis_eq)
  obtain ⟨outcome, sent, hsend, hafter, hcases⟩ :=
    (service.before (deadlineFrom r)).forward_cases request span request.body asked
  rw [← hforwarded] at hafter hcases
  dsimp only [before] at hsend
  rw [hid', ← relayed] at hsend
  refine ⟨outcome, ⟨span, asked, sent, hsend, ?_, ?_, hstart, hhandles', fun hregistered => ?_,
    hafter⟩, ?_⟩
  · rw [hdown, hnote.downstream_eq, hquiet.downstream_eq]
  · rw [hclock, hnote.clock_eq, hquiet.clock_eq]
  · rw [Context.hasTransport, Context.handle?, ← hhandles'] at hregistered
    exact Courier.sends_of_inTime _ _ _ hregistered (isLate_deadlineFrom hstart)
  obtain ⟨x, hx, hverdict, hchecker⟩ | hlost := hcases
  · refine .inl ⟨x, hx, hverdict, fun ht hknows cache hcache hwindow hroom => ?_⟩
    have hsknows : (s.context span).hasChecker = true := by
      rw [Context.hasChecker, Context.handle?, hhandles]
      exact hknows
    obtain ⟨s', hask, hheld, hext, -⟩ := noted_isDuplicate service.home.settings request.body
      hspan hsknows (hquiet.checker_eq.trans hcache)
    rw [hask] at hasked
    subst hasked
    have hretains := Courier.sendBefore_retains (d := service.courier) ht (some (deadlineFrom r))
      span (service.relayed request r) asked
    rw [hsend] at hretains
    have hsent := (hretains.hasChecker_eq span (Nat.lt_of_lt_of_le hspan hext.size_le)).trans
      ((hext.hasChecker_eq span hspan).trans hsknows)
    have hholds := holds_settle (hretains.checker_eq.trans hheld) hsent
      (DuplicateCache.find?_check_self hwindow hroom (digestOf request.body) s.clock.wall) x
    rw [← hholds, Holds, Holds, hchecker]
  · exact .inr hlost

/-- The answer to an event whose delivery came out in some way. -/
def Answers (response : Http.Response) : Outcome Verdict → Prop
  | .returned verdict =>
    response.status = verdict.response.status ∧ response.body = verdict.response.body
  | .panicked _ => response.status = 500
  | .hung => response.status = 408

/-- An event is answered as it is decided, in a span with the handles of the root. -/
theorem serve_decided (service : Service σ) (hmethod : request.method = "POST")
    (hpath : request.path = eventsRoute) (r : Realm σ) :
    ∃ response r' span s, service.serve none request r = (.returned response, r') ∧
      span < s.contexts.size ∧ Realm.Quiet r s ∧
      (s.context span).handles = (r.context service.home.root).handles ∧
      (s.context span).id = service.correlationOf request r ∧
      Realm.Retains ((service.before (deadlineFrom r)).decide request span s).2 r' ∧
      r'.downstream = ((service.before (deadlineFrom r)).decide request span s).2.downstream ∧
      Answers response ((service.before (deadlineFrom r)).decide request span s).1 := by
  obtain ⟨response, r', he, hleft, hdown, -, hanswer⟩ :=
    service.serve_cases (show (⟨none, request, r⟩ : Visit σ).request.method = "POST" from hmethod)
      hpath
  obtain ⟨span, s, hserved, hspan, hquiet, hhandles, hid⟩ := service.served_eq request r
  rw [hserved] at hleft hdown hanswer
  refine ⟨response, r', span, s, he, hspan, hquiet, hhandles, hid, hleft, hdown, ?_⟩
  obtain ⟨verdict, hv, hsame⟩ | ⟨panic, hp, hstatus⟩ | ⟨hh, hstatus⟩ := hanswer
  · rw [hv]
    exact hsame
  · rw [hp]
    exact hstatus
  · rw [hh]
    exact hstatus

/-- What is too long, has nowhere to go or is reported touches nothing downstream. -/
theorem serve_unsent (service : Service σ) (hmethod : request.method = "POST")
    (hpath : request.path = eventsRoute) (hfault : request.bodyFault = none) (r : Realm σ)
    (hturned : service.TooLong request ∨ service.home.settings.endpoint = "" ∨
      r.Reports service.home.root request.body) :
    (service.serve none request r).2.downstream = r.downstream := by
  obtain ⟨response, r', span, s, he, -, hquiet, hhandles, -, -, hleft, -⟩ :=
    service.serve_decided hmethod hpath r
  have hreports : s.Reports span request.body ↔ r.Reports service.home.root request.body :=
    Realm.Reports.congr hquiet.checker_eq hquiet.clock_eq hhandles
  rw [he]
  refine hleft.trans (Eq.trans ?_ hquiet.downstream_eq)
  obtain ⟨-, s', hdecide, hs⟩ | ⟨hfits, ⟨-, s', hdecide, hs⟩ | ⟨hend,
    ⟨-, s', hdecide, hs⟩ | ⟨hmiss, -⟩⟩⟩ :=
    (service.before (deadlineFrom r)).decide_cases hfault span s
  · rw [hdecide]
    exact hs.downstream_eq
  · rw [hdecide]
    exact hs.downstream_eq
  · rw [hdecide]
    exact hs
  · obtain hlong | hnone | hhit := hturned
    · exact absurd hlong hfits
    · exact absurd hnone hend
    · exact absurd (hreports.2 hhit) hmiss

/-- Nor is anything sent for it. -/
theorem calls_eq_nil (service : Service σ) (hmethod : request.method = "POST")
    (hpath : request.path = eventsRoute) (hfault : request.bodyFault = none) (r : Realm σ)
    (hturned : service.TooLong request ∨ service.home.settings.endpoint = "" ∨
      r.Reports service.home.root request.body) : service.calls request r = [] :=
  congrArg Prod.snd ((service.noting callOf).serve_unsent hmethod hpath hfault
    (r.mapDownstream fun t => (t, [])) hturned)

/-- **Decision.** The service answers every event that is posted and whose body does not break off.
One that is longer than the settings allow is answered 413; else, if there is no endpoint, 503;
else, if the cache reports it, 200. These three send nothing, and the first two leave the cache as
it was. Everything else is delivered once, and the answer passes the last exchange on: a failure as
502, whatever its status, else the body with its status, or with 502 if that is no status of an
answer. Afterwards the cache holds the event exactly when that exchange is not worth another try. A
delivery that panics is answered 500, and one that does not end 408. -/
theorem decision_order (service : Service σ) (hmethod : request.method = "POST")
    (hpath : request.path = eventsRoute) (hfault : request.bodyFault = none) (r : Realm σ) :
    ∃ response r', service.serve none request r = (.returned response, r') ∧
    (service.TooLong request → response.status = 413 ∧
      response.body = "\x7b\"error\":\"payload too large\"\x7d".toUTF8 ∧
      r'.checker = r.checker ∧ r'.downstream = r.downstream ∧ service.calls request r = []) ∧
    (¬ service.TooLong request → service.home.settings.endpoint = "" → response.status = 503 ∧
      response.body = "\x7b\"error\":\"no endpoint configured\"\x7d".toUTF8 ∧
      r'.checker = r.checker ∧ r'.downstream = r.downstream ∧ service.calls request r = []) ∧
    (¬ service.TooLong request → service.home.settings.endpoint ≠ "" →
      r.Reports service.home.root request.body → response.status = 200 ∧
      response.body = "\x7b\"status\":\"duplicate\"\x7d".toUTF8 ∧
      r'.downstream = r.downstream ∧ service.calls request r = []) ∧
    (¬ service.TooLong request → service.home.settings.endpoint ≠ "" →
      ¬ r.Reports service.home.root request.body →
      ∃ outcome, service.Relays request r outcome r' ∧
        ((∃ x, outcome = .returned x ∧ Mirrors response x ∧
            (Transport.Retains service.transport →
              (r.context service.home.root).hasChecker = true →
              ∀ cache, r.checker = some cache → cache.windowMs ≠ 0 → 0 < cache.capacity →
                (Holds r' request.body ↔ x.isRetryable = false))) ∨
          (∃ panic, outcome = .panicked panic ∧ response.status = 500) ∨
          outcome = .hung ∧ response.status = 408)) := by
  obtain ⟨response, r', span, s, he, hspan, hquiet, hhandles, hid, hleft, hdown, hanswer⟩ :=
    service.serve_decided hmethod hpath r
  have hreports : s.Reports span request.body ↔ r.Reports service.home.root request.body :=
    Realm.Reports.congr hquiet.checker_eq hquiet.clock_eq hhandles
  have hunsent := service.serve_unsent hmethod hpath hfault r
  have hnone := service.calls_eq_nil hmethod hpath hfault r
  rw [he] at hunsent
  refine ⟨response, r', he, ?_⟩
  obtain ⟨hlong, s', hdecide, hs⟩ | ⟨hfits, ⟨hend, s', hdecide, hs⟩ | ⟨hend,
    ⟨hhit, s', hdecide, hs⟩ | ⟨hmiss, hdecide⟩⟩⟩ :=
    (service.before (deadlineFrom r)).decide_cases hfault span s
  · rw [hdecide] at hleft hanswer
    obtain ⟨hstatus, hbody⟩ := hanswer
    have hchecker := hleft.checker_eq.trans (hquiet.trans hs).checker_eq
    exact ⟨fun _ => ⟨hstatus, hbody.trans (by decide +kernel), hchecker, hunsent (.inl hlong),
      hnone (.inl hlong)⟩, fun h => absurd hlong h, fun h => absurd hlong h,
      fun h => absurd hlong h⟩
  · rw [hdecide] at hleft hanswer
    obtain ⟨hstatus, hbody⟩ := hanswer
    have hchecker := hleft.checker_eq.trans (hquiet.trans hs).checker_eq
    exact ⟨fun h => absurd h hfits, fun _ _ => ⟨hstatus, hbody.trans (by decide +kernel),
      hchecker, hunsent (.inr (.inl hend)), hnone (.inr (.inl hend))⟩, fun _ h => absurd hend h,
      fun _ h => absurd hend h⟩
  · rw [hdecide] at hanswer
    obtain ⟨hstatus, hbody⟩ := hanswer
    exact ⟨fun h => absurd h hfits, fun _ h => absurd h hend, fun _ _ h => ⟨hstatus,
      hbody.trans (by decide +kernel), hunsent (.inr (.inr h)), hnone (.inr (.inr h))⟩,
      fun _ _ h => absurd (hreports.1 hhit) h⟩
  · refine ⟨fun h => absurd h hfits, fun _ h => absurd h hend,
      fun _ _ h => absurd (hreports.2 h) hmiss, fun _ _ _ => ?_⟩
    obtain ⟨outcome, hrelays, hcases⟩ :=
      service.relays_forward request hspan hquiet hhandles hid hdecide
    refine ⟨outcome, hrelays.congr hdown, ?_⟩
    obtain ⟨x, hx, hv, hholds⟩ | ⟨panic, hp, hv⟩ | ⟨hh, hv⟩ := hcases
    · rw [hv] at hanswer
      obtain ⟨hstatus, hbody⟩ := hanswer
      refine .inl ⟨x, hx, mirrors_of_verdict hstatus hbody, ?_⟩
      unfold Holds at hholds ⊢
      rw [hleft.checker_eq]
      exact hholds
    · rw [hv] at hanswer
      exact .inr (.inl ⟨panic, hp, hanswer⟩)
    · rw [hv] at hanswer
      exact .inr (.inr ⟨hh, hanswer⟩)

/-- A service that takes in events of four bytes at most. -/
def limited : Service Script :=
  .of ⟨0, { Settings.zero with
    endpoint := "http://down.test/", duplicateTimeout := 60000, maxMessageSize := 4 }, "test"⟩
    Script.send

/-- A realm whose root has a transport and knows of an empty cache. -/
def attentive : Realm Script := (accepting []).useChecker 0 (.ofWindow minute)

theorem decision_order_limited :
    limited.TooLong (posted "12345") ∧ ¬ limited.TooLong (posted "1234") ∧
      ¬ attentive.Reports 0 (posted "1234").body ∧
      (∃ response r', limited.serve none (posted "12345") attentive = (.returned response, r') ∧
        response.status = 413 ∧ limited.calls (posted "12345") attentive = []) ∧
      ∃ response r' outcome, limited.serve none (posted "1234") attentive =
          (.returned response, r') ∧
        limited.Relays (posted "1234") attentive outcome r' := by
  have hlong : limited.TooLong (posted "12345") := by
    unfold TooLong
    decide +kernel
  have hfits : ¬ limited.TooLong (posted "1234") := by
    unfold TooLong
    decide +kernel
  have hend : limited.home.settings.endpoint ≠ "" := by decide
  have hmiss : ¬ attentive.Reports 0 (posted "1234").body := by
    rintro ⟨cache, hcache, -, hhit⟩
    obtain rfl : DuplicateCache.ofWindow minute = cache := Option.some.inj hcache
    cases hhit
  obtain ⟨response, r', he, htoolong, -⟩ :=
    decision_order limited (show (posted "12345").method = "POST" from rfl) rfl rfl attentive
  obtain ⟨response', r'', he', -, -, -, hforward⟩ :=
    decision_order limited (show (posted "1234").method = "POST" from rfl) rfl rfl attentive
  obtain ⟨hstatus, -, -, -, hcalls⟩ := htoolong hlong
  obtain ⟨outcome, hrelays, -⟩ := hforward hfits hend hmiss
  exact ⟨hlong, hfits, hmiss, ⟨response, r', he, hstatus, hcalls⟩, response', r'', outcome, he',
    hrelays⟩

end Service
end EventRelay
