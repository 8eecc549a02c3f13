import EventRelay.Proofs.Dedup.Withdrawals
import EventRelay.Proofs.Delivery.Course
import EventRelay.Service.Ingest

/-!
# What taking in an event does to the duplicate cache

Between its arrival and its answer an event asks the duplicate cache once, if its body can be read
and there is somewhere to deliver it to. This module says what becomes of the event and of the
cache, for every transport that leaves the cache alone.

* `Service.judge`: the verdict on an event, before it is put into an answer.
* `Service.treatment`: what a verdict means for the cache.
* `Service.Delivers`: one delivery, as what lies downstream sees it, with the sends that it makes.
* `decide_of_unreadable`, `decide_of_noEndpoint`, `decide_of_duplicate`, `decide_of_new`: the stages
  in the four cases that they know.
* `judge_leads`: an event leads from cache to cache by its treatment.
* `ingest_cases`: the answer to an event is its verdict.
-/

namespace EventRelay

/-! ## Questions to the cache -/

namespace Realm

variable {σ : Type} {r : Realm σ} {c : ContextId} {cache : DuplicateCache}

/-- A context that knows of the cache has it asked. -/
theorem isDuplicate_eq (hcache : r.checker = some cache) (hc : (r.context c).hasChecker = true)
    (payload : ByteArray) :
    ∃ r', r.isDuplicate c payload = ((cache.check (digestOf payload) r.clock.wall).1, r') ∧
      r'.checker = some (cache.check (digestOf payload) r.clock.wall).2 ∧ Extends r r' ∧
      r'.downstream = r.downstream := by
  simp only [isDuplicate, hcache, hc, if_true]
  exact ⟨_, rfl, rfl, .of_contexts_eq rfl, rfl⟩

theorem checker_forget (hcache : r.checker = some cache) (hc : (r.context c).hasChecker = true)
    (payload : ByteArray) :
    (r.forget c payload).checker = some (cache.forget (digestOf payload)) := by
  simp only [forget, hcache, hc, if_true]

theorem downstream_forget (r : Realm σ) (c : ContextId) (payload : ByteArray) :
    (r.forget c payload).downstream = r.downstream := by
  unfold forget
  split
  · split <;> rfl
  · rfl

/-- Without a cache nothing is a duplicate. -/
theorem isDuplicate_of_none (r : Realm σ) {c : ContextId} {payload : ByteArray}
    (hnone : r.checker = none) : r.isDuplicate c payload = (false, r) := by
  rw [isDuplicate, hnone]

/-- A question changes nothing but the cache. -/
theorem isDuplicate_touches (r : Realm σ) (c : ContextId) (payload : ByteArray) :
    (r.isDuplicate c payload).2.contexts = r.contexts ∧
      (r.isDuplicate c payload).2.downstream = r.downstream := by
  unfold isDuplicate
  split
  · split <;> exact ⟨rfl, rfl⟩
  · exact ⟨rfl, rfl⟩

/-- A question takes no time. -/
theorem time_isDuplicate (r : Realm σ) (c : ContextId) (payload : ByteArray) :
    (r.isDuplicate c payload).2.clock = r.clock ∧
      (r.isDuplicate c payload).2.systemMillis = r.systemMillis := by
  unfold isDuplicate
  split
  · split <;> exact ⟨rfl, rfl⟩
  · exact ⟨rfl, rfl⟩

theorem context_isDuplicate (r : Realm σ) (c d : ContextId) (payload : ByteArray) :
    (r.isDuplicate c payload).2.context d = r.context d := by
  rw [context, (r.isDuplicate_touches c payload).1]
  rfl

theorem isDuplicate_extends (r : Realm σ) (c : ContextId) (payload : ByteArray) :
    Extends r (r.isDuplicate c payload).2 := by
  unfold isDuplicate
  split
  · split
    · exact .of_contexts_eq rfl
    · exact .refl r
  · exact .refl r

theorem forget_extends (r : Realm σ) (c : ContextId) (payload : ByteArray) :
    Extends r (r.forget c payload) := by
  unfold forget
  split
  · split
    · exact .of_contexts_eq rfl
    · exact .refl r
  · exact .refl r

end Realm

namespace Service

variable {σ : Type}

/-! ## Writes around the question -/

theorem noteIdentity_calm (span : ContextId) (name text : String) (r : Realm σ) :
    Realm.Calm r (noteIdentity span name text r) := by
  unfold noteIdentity
  split
  · exact .refl r
  · exact (r.setValue_calm _ _ _).trans (Realm.setLogValue_calm _ _ _ _)

theorem noteRequest_calm (settings : Settings) (request : Http.Request) (span : ContextId)
    (r : Realm σ) : Realm.Calm r (noteRequest settings request span r) := by
  unfold noteRequest
  refine Realm.Calm.trans ?_ (noteIdentity_calm _ _ _ _)
  refine Realm.Calm.trans ?_ (noteIdentity_calm _ _ _ _)
  exact (r.setValue_calm _ _ _).trans (Realm.setValue_calm _ _ _ _)

theorem noteFields_calm (span : ContextId) (fields : List (String × String)) (r : Realm σ) :
    Realm.Calm r (fields.foldl (fun r field => r.setLogValue span field.1 (.str field.2)) r) := by
  induction fields generalizing r with
  | nil => exact .refl r
  | cons field fields ih => exact (r.setLogValue_calm _ _ _).trans (ih _)

theorem notePayload_calm (settings : Settings) (payload : ByteArray) (span : ContextId)
    (r : Realm σ) : Realm.Calm r (notePayload settings payload span r) := by
  unfold notePayload
  dsimp only
  split
  · exact (noteFields_calm span _ r).trans (Realm.setValue_calm _ _ _ _)
  · exact noteFields_calm span _ r

theorem notePayload_quiet (settings : Settings) (payload : ByteArray) (span : ContextId)
    (r : Realm σ) : Realm.Quiet r (notePayload settings payload span r) :=
  (notePayload_calm settings payload span r).toQuiet

theorem logExchange_calm (span : ContextId) (exchange : Exchange) (r : Realm σ) :
    Realm.Calm r (logExchange span exchange r) := by
  unfold logExchange
  split
  · exact r.log_calm _ _ _ _
  · split
    · exact .refl r
    · exact r.log_calm _ _ _ _

theorem logExchange_quiet (span : ContextId) (exchange : Exchange) (r : Realm σ) :
    Realm.Quiet r (logExchange span exchange r) :=
  (logExchange_calm span exchange r).toQuiet

/-! ## Arrival and departure -/

theorem arrive_fst (service : Service σ) (parent : Option ContextId) (request : Http.Request)
    (r : Realm σ) : (service.arrive parent request r).1 = r.contexts.size :=
  r.openSpan_fst (parent.getD service.home.root) SpanName.httpHandle (arrivalAttributes request)

theorem arrive_transport (service : Service σ) (t : Transport σ) (parent : Option ContextId)
    (request : Http.Request) (r : Realm σ) :
    ({ service with transport := t } : Service σ).arrive parent request r =
      service.arrive parent request r := rfl

theorem arrive_before (service : Service σ) (deadline : Nat) (parent : Option ContextId)
    (request : Http.Request) (r : Realm σ) :
    (service.before deadline).arrive parent request r = service.arrive parent request r := rfl

/-- An arrival opens a span and writes to its bags. -/
theorem arrive_snd (service : Service σ) (parent : Option ContextId) (request : Http.Request)
    (r : Realm σ) :
    Realm.Quiet (r.openSpan (parent.getD service.home.root) SpanName.httpHandle
      (arrivalAttributes request)).2 (service.arrive parent request r).2 := by
  unfold arrive
  dsimp only
  refine Realm.Quiet.trans ?_ (noteRequest_calm _ _ _ _).toQuiet
  split
  · exact Realm.setId_quiet _ _ _
  · exact .refl _

theorem arrive_quiet (service : Service σ) (parent : Option ContextId) (request : Http.Request)
    (r : Realm σ) : Realm.Quiet r (service.arrive parent request r).2 :=
  (r.openSpan_quiet _ _ _).trans (service.arrive_snd parent request r)

/-- The span of an event has the handles of the context in which it is taken in. -/
theorem handles_arrive (service : Service σ) (parent : Option ContextId) (request : Http.Request)
    (r : Realm σ) : ((service.arrive parent request r).2.context r.contexts.size).handles =
      (r.context (parent.getD service.home.root)).handles := by
  obtain ⟨hlt, fresh, values, h⟩ := r.context_openSpan (parent.getD service.home.root)
    SpanName.httpHandle (arrivalAttributes request)
  rw [(service.arrive_snd parent request r).handles_eq _ hlt, h]
  rfl

/-- The span of an event knows of the cache if the context of its request does. -/
theorem hasChecker_arrive (service : Service σ) (parent : Option ContextId)
    (request : Http.Request) (r : Realm σ) :
    r.contexts.size < (service.arrive parent request r).2.contexts.size ∧
      ((service.arrive parent request r).2.context r.contexts.size).hasChecker =
        (r.context (parent.getD service.home.root)).hasChecker := by
  have hquiet := service.arrive_snd parent request r
  obtain ⟨hlt, -⟩ := r.context_openSpan (parent.getD service.home.root) SpanName.httpHandle
    (arrivalAttributes request)
  refine ⟨Nat.lt_of_lt_of_le hlt hquiet.size_le, ?_⟩
  simp only [Context.hasChecker, Context.handle?, service.handles_arrive]

theorem depart_quiet (service : Service σ) (request : Http.Request) (span : ContextId)
    (started : UInt64) (response : Http.Response) (r : Realm σ) :
    Realm.Quiet r (service.depart request span started response r).2 :=
  (r.measure_quiet _ _ _ _ _).trans (Realm.closeSpan_quiet _ _ _ _ _)

/-! ## The stages -/

/-- What lies downstream goes from one realm to another by one delivery of a payload to the
endpoint, for an event that was taken in under a context. The delivery brings an exchange back, and
with a transport registered on the context it sends. -/
def Delivers (service : Service σ) (parent : Option ContextId) (payload : ByteArray) (x : Exchange)
    (r r' : Realm σ) : Prop :=
  ∃ span outbound s s', outbound.url = service.home.settings.endpoint ∧
    outbound.payload = payload ∧ s.downstream = r.downstream ∧
    service.courier.sendBefore service.deadline service.transport span outbound s =
      (.returned x, s') ∧
    ((r.context (parent.getD service.home.root)).hasTransport = true →
      service.courier.Sends service.deadline service.transport span outbound s) ∧
    r'.downstream = s'.downstream

theorem Delivers.congr {service : Service σ} {parent parent' : Option ContextId}
    {payload : ByteArray} {x : Exchange} {r r' s s' : Realm σ}
    (h : service.Delivers parent payload x r r')
    (hhandles : (r.context (parent.getD service.home.root)).handles =
      (s.context (parent'.getD service.home.root)).handles)
    (hs : r.downstream = s.downstream) (hs' : s'.downstream = r'.downstream) :
    service.Delivers parent' payload x s s' := by
  obtain ⟨span, outbound, q, q', hurl, hpayload, hbefore, hsend, hsends, hafter⟩ := h
  rw [Context.hasTransport, Context.handle?, hhandles] at hsends
  exact ⟨span, outbound, q, q', hurl, hpayload, hbefore.trans hs, hsend, hsends,
    hs'.trans hafter⟩

theorem relayedRequest_eq (settings : Settings) (request : Http.Request) (id : String)
    (payload : ByteArray) :
    (relayedRequest settings request id payload).url = settings.endpoint ∧
      (relayedRequest settings request id payload).payload = payload := by
  unfold relayedRequest
  dsimp only
  split <;> exact ⟨rfl, rfl⟩

section Stages

variable {service : Service σ} {request : Http.Request} {span : ContextId} {s : Realm σ}
  {payload : ByteArray} {cache : DuplicateCache}

theorem decide_of_unreadable (span : ContextId) (s : Realm σ) {reason : String}
    (hread : request.readBody (bodyLimit service.home.settings) = .error reason) :
    ∃ s', service.decide request span s = (.returned .unreadable, s') ∧ Realm.Quiet s s' := by
  simp only [decide, hread]
  exact ⟨_, rfl, s.log_quiet _ _ _ _⟩

theorem decide_of_noEndpoint (span : ContextId) (s : Realm σ)
    (hread : request.readBody (bodyLimit service.home.settings) = .ok payload)
    (hend : service.home.settings.endpoint.isEmpty = true) :
    ∃ s', service.decide request span s = (.returned .noEndpoint, s') ∧ Realm.Quiet s s' := by
  simp only [decide, hread, hend, if_true]
  exact ⟨_, rfl, (notePayload_quiet _ payload span s).trans (Realm.log_quiet _ _ _ _ _)⟩

/-- A body that can be read has the cache asked about its digest, at the time of its arrival. -/
theorem noted_isDuplicate (settings : Settings) (payload : ByteArray)
    (hspan : span < s.contexts.size) (hknows : (s.context span).hasChecker = true)
    (hcache : s.checker = some cache) :
    ∃ s', (notePayload settings payload span s).isDuplicate span payload =
        ((cache.check (digestOf payload) s.clock.wall).1, s') ∧
      s'.checker = some (cache.check (digestOf payload) s.clock.wall).2 ∧ Realm.Extends s s' ∧
      s'.downstream = s.downstream := by
  have hnote := notePayload_quiet settings payload span s
  obtain ⟨s', hask, hchecker, hext, hdown⟩ := Realm.isDuplicate_eq
    (hnote.checker_eq.trans hcache) ((hnote.retains.hasChecker_eq span hspan).trans hknows) payload
  rw [hnote.clock_eq] at hask hchecker
  exact ⟨s', hask, hchecker, hnote.retains.toExtends.trans hext, hdown.trans hnote.downstream_eq⟩

/-- To note a payload and to ask about it leaves the handles of the span as they are. -/
theorem handles_noted (settings : Settings) (payload : ByteArray) (hspan : span < s.contexts.size) :
    (((notePayload settings payload span s).isDuplicate span payload).2.context span).handles =
      (s.context span).handles := by
  rw [Realm.context_isDuplicate, (notePayload_quiet ..).handles_eq _ hspan]

/-- A duplicate is answered without a word to what lies downstream. -/
theorem decide_of_duplicate
    (hread : request.readBody (bodyLimit service.home.settings) = .ok payload)
    (hend : service.home.settings.endpoint.isEmpty = false) (hspan : span < s.contexts.size)
    (hknows : (s.context span).hasChecker = true) (hcache : s.checker = some cache)
    (hhit : (cache.check (digestOf payload) s.clock.wall).1 = true) :
    ∃ s', (∀ t, ({ service with transport := t } : Service σ).decide request span s =
        (.returned .duplicate, s')) ∧
      s'.checker = some (cache.check (digestOf payload) s.clock.wall).2 ∧
      s'.downstream = s.downstream := by
  obtain ⟨s', hask, hchecker, -, hdown⟩ :=
    noted_isDuplicate service.home.settings payload hspan hknows hcache
  rw [hhit] at hask
  have hlog := s'.log_quiet span .info "duplicate event suppressed" []
  refine ⟨_, fun t => ?_, hlog.checker_eq.trans hchecker, hlog.downstream_eq.trans hdown⟩
  simp only [decide, hread, hend, hask, Bool.false_eq_true, if_false]

/-- What is no duplicate is delivered. If the delivery comes to an end, the cache keeps the digest
exactly when the exchange is not worth another try; if it does not, the cache keeps the digest. -/
theorem decide_of_new (ht : Transport.Retains service.transport)
    (hread : request.readBody (bodyLimit service.home.settings) = .ok payload)
    (hend : service.home.settings.endpoint.isEmpty = false) (hspan : span < s.contexts.size)
    (hknows : (s.context span).hasChecker = true) (hcache : s.checker = some cache)
    (hmiss : (cache.check (digestOf payload) s.clock.wall).1 = false) :
    (∃ x, (service.decide request span s).1 = .returned (.forwarded x) ∧
        service.Delivers (some span) payload x s (service.decide request span s).2 ∧
        (service.decide request span s).2.checker =
          some (if x.isRetryable then
            (cache.check (digestOf payload) s.clock.wall).2.forget (digestOf payload)
            else (cache.check (digestOf payload) s.clock.wall).2)) ∨
      ((∃ panic, (service.decide request span s).1 = .panicked panic) ∨
          (service.decide request span s).1 = .hung) ∧
        (service.decide request span s).2.checker =
          some (cache.check (digestOf payload) s.clock.wall).2 := by
  obtain ⟨s', hask, hchecker, hext, hdown⟩ :=
    noted_isDuplicate service.home.settings payload hspan hknows hcache
  rw [hmiss] at hask
  have hhandles := handles_noted service.home.settings payload hspan
  rw [hask] at hhandles
  have hdecide : service.decide request span s = service.forward request span payload s' := by
    simp only [decide, hread, hend, hask, Bool.false_eq_true, if_false]
  have hsent := Courier.sendBefore_retains (d := service.courier) ht service.deadline span
    (relayedRequest service.home.settings request (s'.context span).id payload) s'
  have hknows' := (hsent.hasChecker_eq span (Nat.lt_of_lt_of_le hspan hext.size_le)).trans
    ((hext.hasChecker_eq span hspan).trans hknows)
  have hchecker' := hsent.checker_eq.trans hchecker
  rw [hdecide]
  have hrelayed := relayedRequest_eq service.home.settings request (s'.context span).id payload
  unfold forward
  dsimp only
  generalize hsend : service.courier.sendBefore service.deadline service.transport span _ s' = sent
    at hknows' hchecker' ⊢
  obtain ⟨outcome, s''⟩ := sent
  cases outcome with
  | returned x =>
    have hlog := logExchange_quiet span x (settle span payload x s'')
    refine .inl ⟨x, rfl, ⟨span, _, s', s'', hrelayed.1, hrelayed.2, hdown, hsend, ?_, ?_⟩, ?_⟩
    · intro hregistered
      rw [Option.getD_some, Context.hasTransport, Context.handle?, ← hhandles] at hregistered
      exact Courier.sends_of_returned hregistered hsend
    · show (logExchange span x (settle span payload x s'')).downstream = _
      rw [hlog.downstream_eq, settle]
      split
      · exact Realm.downstream_forget _ _ _
      · rfl
    · show (logExchange span x (settle span payload x s'')).checker = _
      rw [hlog.checker_eq, settle]
      split
      · exact Realm.checker_forget hchecker' hknows' payload
      · exact hchecker'
  | panicked panic => exact .inr ⟨.inl ⟨panic, rfl⟩, hchecker'⟩
  | hung => exact .inr ⟨.inr rfl, hchecker'⟩

theorem decide_extends (ht : Transport.Retains service.transport) (request : Http.Request)
    (span : ContextId) (s : Realm σ) : Realm.Extends s (service.decide request span s).2 := by
  unfold decide
  dsimp only
  split
  · exact (s.log_quiet _ _ _ _).retains.toExtends
  · next payload _ =>
    have hnote := (notePayload_quiet service.home.settings payload span s).retains.toExtends
    split
    · exact hnote.trans (Realm.log_quiet _ _ _ _ _).retains.toExtends
    · have hask := hnote.trans (Realm.isDuplicate_extends _ span payload)
      generalize Realm.isDuplicate _ span payload = asked at hask ⊢
      obtain ⟨hit, s'⟩ := asked
      cases hit with
      | true => exact hask.trans (Realm.log_quiet s' _ _ _ _).retains.toExtends
      | false =>
        have hsent := (Courier.sendBefore_retains (d := service.courier) ht service.deadline span
          (relayedRequest service.home.settings request (s'.context span).id payload) s').toExtends
        show Realm.Extends s (service.forward request span payload s').2
        unfold forward
        dsimp only
        generalize service.courier.sendBefore service.deadline service.transport span _ s' = sent
          at hsent ⊢
        obtain ⟨outcome, s''⟩ := sent
        cases outcome with
        | returned x =>
          refine (hask.trans hsent).trans (Realm.Extends.trans ?_
            (logExchange_quiet _ _ _).retains.toExtends)
          unfold settle
          split
          · exact Realm.forget_extends _ _ _
          · exact .refl _
        | panicked panic => exact hask.trans hsent
        | hung => exact hask.trans hsent

end Stages

/-! ## The verdict and the cache -/

/-- The verdict on an event, before it is put into an answer. -/
def judge (service : Service σ) (parent : Option ContextId) (request : Http.Request)
    (r : Realm σ) : Outcome Verdict × Realm σ :=
  service.decide request (service.arrive parent request r).1 (service.arrive parent request r).2

/-- What a verdict means for a payload in the cache; without a verdict it is kept. -/
def ending : Outcome Verdict → DuplicateCache.Ending
  | .returned .duplicate => .suppressed
  | .returned (.forwarded x) => if x.isRetryable then .withdrawn else .kept
  | _ => .kept

/-- The payload of an event about which the cache is asked: there is none if the body cannot be read
or there is nowhere to deliver it to. -/
def asked? (service : Service σ) (request : Http.Request) : Option ByteArray :=
  if service.home.settings.endpoint.isEmpty then none
  else (request.readBody (bodyLimit service.home.settings)).toOption

/-- What an event means for the cache. -/
def treatment (service : Service σ) (request : Http.Request) (time : UInt64)
    (outcome : Outcome Verdict) : DuplicateCache.Treatment :=
  match service.asked? request with
  | some payload => .asked (digestOf payload) time (ending outcome)
  | none => .skipped

section Judgement

variable {service : Service σ} {parent : Option ContextId} {request : Http.Request} {r : Realm σ}
  {cache : DuplicateCache}

theorem asked?_eq_some_iff {payload : ByteArray} : service.asked? request = some payload ↔
    service.home.settings.endpoint.isEmpty = false ∧
      request.readBody (bodyLimit service.home.settings) = .ok payload := by
  unfold asked?
  cases service.home.settings.endpoint.isEmpty <;>
    cases request.readBody (bodyLimit service.home.settings) <;> simp [Except.toOption]

theorem judge_extends (ht : Transport.Retains service.transport) (parent : Option ContextId)
    (request : Http.Request) (r : Realm σ) :
    Realm.Extends r (service.judge parent request r).2 :=
  (service.arrive_quiet parent request r).retains.toExtends.trans (decide_extends ht _ _ _)

/-- **Verdicts.** Under a context that knows of the cache, an event either does not touch it, or is
suppressed and goes nowhere, or is delivered; then the cache forgets it exactly when the delivery
comes to an end with an exchange that is worth another try. -/
theorem judge_cases (request : Http.Request) (ht : Transport.Retains service.transport)
    (hknows : (r.context (parent.getD service.home.root)).hasChecker = true)
    (hcache : r.checker = some cache) :
    (service.asked? request = none ∧ (service.judge parent request r).2.checker = some cache ∧
      ((service.judge parent request r).1 = .returned .unreadable ∨
        (service.judge parent request r).1 = .returned .noEndpoint)) ∨
    ∃ payload, service.asked? request = some payload ∧
      ((cache.check (digestOf payload) r.clock.wall).1 = true ∧
          (∃ r', (∀ t, ({ service with transport := t } : Service σ).judge parent request r =
              (.returned .duplicate, r')) ∧
            r'.checker = some (cache.check (digestOf payload) r.clock.wall).2 ∧
            r'.downstream = r.downstream) ∨
        (cache.check (digestOf payload) r.clock.wall).1 = false ∧
          ((∃ x, (service.judge parent request r).1 = .returned (.forwarded x) ∧
              service.Delivers parent payload x r (service.judge parent request r).2 ∧
              (service.judge parent request r).2.checker =
                some (if x.isRetryable then
                  (cache.check (digestOf payload) r.clock.wall).2.forget (digestOf payload)
                  else (cache.check (digestOf payload) r.clock.wall).2)) ∨
            ((∃ panic, (service.judge parent request r).1 = .panicked panic) ∨
                (service.judge parent request r).1 = .hung) ∧
              (service.judge parent request r).2.checker =
                some (cache.check (digestOf payload) r.clock.wall).2)) := by
  have harrive := service.arrive_quiet parent request r
  obtain ⟨hspan, hspanKnows⟩ := service.hasChecker_arrive parent request r
  rw [hknows] at hspanKnows
  rw [← service.arrive_fst parent request r] at hspan hspanKnows
  have hcache' := harrive.checker_eq.trans hcache
  rw [← harrive.clock_eq, ← harrive.downstream_eq]
  unfold judge
  cases hread : request.readBody (bodyLimit service.home.settings) with
  | error reason =>
    obtain ⟨s', he, hq⟩ := decide_of_unreadable (service.arrive parent request r).1
      (service.arrive parent request r).2 hread
    rw [he]
    refine .inl ⟨?_, hq.checker_eq.trans hcache', .inl rfl⟩
    unfold asked?
    rw [hread]
    split <;> rfl
  | ok payload =>
    cases hend : service.home.settings.endpoint.isEmpty with
    | true =>
      obtain ⟨s', he, hq⟩ := decide_of_noEndpoint (service.arrive parent request r).1
        (service.arrive parent request r).2 hread hend
      rw [he]
      exact .inl ⟨if_pos hend, hq.checker_eq.trans hcache', .inr rfl⟩
    | false =>
      refine .inr ⟨payload, asked?_eq_some_iff.2 ⟨hend, hread⟩, ?_⟩
      cases hhit : (cache.check (digestOf payload)
          (service.arrive parent request r).2.clock.wall).1 with
      | true =>
        obtain ⟨s', hdup, hchecker, hdown⟩ :=
          decide_of_duplicate hread hend hspan hspanKnows hcache' hhit
        refine .inl ⟨rfl, s', fun t => ?_, hchecker, hdown⟩
        rw [arrive_transport]
        exact hdup t
      | false =>
        obtain ⟨x, hx, hdelivers, hchecker⟩ | hlost :=
          decide_of_new ht hread hend hspan hspanKnows hcache' hhit
        · have hhandles := service.handles_arrive parent request r
          rw [← service.arrive_fst parent request r] at hhandles
          exact .inr ⟨rfl, .inl ⟨x, hx,
            hdelivers.congr hhandles harrive.downstream_eq rfl, hchecker⟩⟩
        · exact .inr ⟨rfl, .inr hlost⟩

/-- An event leads from cache to cache by its treatment. -/
theorem judge_leads (request : Http.Request) (ht : Transport.Retains service.transport)
    (hknows : (r.context (parent.getD service.home.root)).hasChecker = true)
    (hcache : r.checker = some cache) :
    ∃ cache', (service.judge parent request r).2.checker = some cache' ∧
      (service.treatment request r.clock.wall (service.judge parent request r).1).Leads cache
        cache' := by
  obtain ⟨hnone, hchecker, -⟩ | ⟨payload, hsome, ⟨hhit, r', he, hchecker, -⟩ |
    ⟨hmiss, ⟨x, hx, -, hchecker⟩ | ⟨hlost, hchecker⟩⟩⟩ :=
    judge_cases request ht hknows hcache
  · exact ⟨cache, hchecker, by rw [treatment, hnone]; rfl⟩
  · rw [show service.judge parent request r = _ from he service.transport]
    refine ⟨_, hchecker, ?_⟩
    rw [treatment, hsome]
    exact Prod.ext hhit rfl
  · refine ⟨_, hchecker, ?_⟩
    rw [treatment, hsome, hx]
    dsimp only [ending]
    split
    · exact ⟨_, Prod.ext hmiss rfl, rfl⟩
    · exact Prod.ext hmiss rfl
  · refine ⟨_, hchecker, ?_⟩
    rw [treatment, hsome]
    obtain ⟨panic, hp⟩ | hh := hlost
    · rw [hp]
      exact Prod.ext hmiss rfl
    · rw [hh]
      exact Prod.ext hmiss rfl

/-- The answer to an event is its verdict. -/
theorem ingest_cases (service : Service σ) (parent : Option ContextId) (request : Http.Request)
    (r : Realm σ) :
    (∃ verdict response r', (service.judge parent request r).1 = .returned verdict ∧
      service.ingest parent request r = (.returned response, r') ∧
      Realm.Quiet (service.judge parent request r).2 r' ∧
      response.status = verdict.response.status ∧ response.body = verdict.response.body) ∨
    (∃ panic, (service.judge parent request r).1 = .panicked panic ∧
      service.ingest parent request r = (.panicked panic, (service.judge parent request r).2)) ∨
    (service.judge parent request r).1 = .hung ∧
      service.ingest parent request r = (.hung, (service.judge parent request r).2) := by
  unfold ingest judge
  dsimp only
  generalize (service.arrive parent request r).1 = span
  generalize service.decide request span (service.arrive parent request r).2 = decided
  obtain ⟨outcome, s⟩ := decided
  cases outcome with
  | returned verdict =>
    have hcorrelation := Http.Response.status_withCorrelation
      service.home.settings.transactionHeader (s.context span).id verdict.response
    exact .inl ⟨verdict, (service.depart request span r.clock.elapsed verdict.response s).1,
      (service.depart request span r.clock.elapsed verdict.response s).2, rfl, rfl,
      service.depart_quiet _ _ _ _ _, hcorrelation⟩
  | panicked panic => exact .inr (.inl ⟨panic, rfl, rfl⟩)
  | hung => exact .inr (.inr ⟨rfl, rfl⟩)

/-- As far as the verdict does not depend on the transport, the answer does not either. -/
theorem ingest_transport {t : Transport σ}
    (h : ({ service with transport := t } : Service σ).judge parent request r =
      service.judge parent request r) :
    ({ service with transport := t } : Service σ).ingest parent request r =
      service.ingest parent request r := by
  unfold judge at h
  rw [arrive_transport] at h
  unfold ingest
  dsimp only
  rw [arrive_transport, h]
  rfl

end Judgement

end Service
end EventRelay
