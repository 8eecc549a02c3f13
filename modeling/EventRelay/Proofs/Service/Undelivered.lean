import EventRelay.Proofs.Service.Suppression
import EventRelay.Service.Guard

/-!
# What becomes of an undelivered event

The whole service answers every event, also one whose delivery panics or is not over when the time
for a request is. This module says what happens when the same payload comes in again after it was
not delivered.

* `Service.entered`: the visit that a request to the service becomes. `Service.served`,
  `Service.handled`: the verdict on it within the time for a request, and what it means for the
  cache.
* `serve_cases`: what the service answers to an event.
* `duplicate_iff_lost`: a payload that was not delivered is suppressed the next time exactly when
  its delivery did not come to an end, the next time is within the window, and its digest was not
  crowded out; if the delivery came to an end, it is let through.
-/

namespace EventRelay

/-- A request that is posted to a route for posts comes to its handler. -/
theorem RouteTable.serve_eq_of_post {σ : Type} {routes : RouteTable σ} {handler : Handler σ}
    {request : Http.Request} (hmethod : request.method = "POST")
    (hroute : routes.lookup request.path = some (.post handler)) (parent : Option ContextId)
    (r : Realm σ) : routes.serve parent request r =
      ((handler parent request r).1.map Http.Response.withLength,
        (handler parent request r).2) := by
  simp only [RouteTable.serve, hroute, RouteTable.answer, hmethod, if_true]

namespace Service

variable {σ : Type} {service : Service σ} {services : Nat → Service σ} {window : DuplicateWindow}
  {n : Nat} {visits : Nat → Visit σ}

/-! ## Around the handler of events -/

theorem openRequest_fst (service : Service σ) (request : Http.Request) (r : Realm σ) :
    (service.openRequest request r).1 = r.contexts.size := r.derive_fst service.home.root

/-- The context of a request is derived from the root and written to. -/
theorem openRequest_snd (service : Service σ) (request : Http.Request) (r : Realm σ) :
    Realm.Quiet (r.derive service.home.root).2 (service.openRequest request r).2 := by
  unfold openRequest
  dsimp only
  refine Realm.Quiet.trans ?_ (Realm.setLogValue_quiet _ _ _ _)
  split
  · exact Realm.setId_quiet _ _ _
  · exact .refl _

theorem openRequest_quiet (service : Service σ) (request : Http.Request) (r : Realm σ) :
    Realm.Quiet r (service.openRequest request r).2 :=
  (r.derive_quiet _).trans (service.openRequest_snd request r)

/-- The time for a request counts from when it came in. -/
theorem deadlineFrom_openRequest (service : Service σ) (request : Http.Request) (r : Realm σ) :
    deadlineFrom (service.openRequest request r).2.enter = deadlineFrom r :=
  congrArg (· + requestTimeLimitMs.toNat) (service.openRequest_quiet request r).millis_eq

/-- Before any time has passed it is not over. -/
theorem lt_deadlineFrom {r s : Realm σ} (h : s.systemMillis = r.systemMillis) :
    s.systemMillis < deadlineFrom r := by
  have hpositive : 0 < requestTimeLimitMs.toNat := by decide
  unfold deadlineFrom
  omega

/-- The context of a request has the handles of the root. -/
theorem handles_openRequest (service : Service σ) (request : Http.Request) (r : Realm σ) :
    ((service.openRequest request r).2.context r.contexts.size).handles =
      (r.context service.home.root).handles := by
  obtain ⟨fresh, h⟩ := r.context_derive service.home.root
  rw [(service.openRequest_snd request r).handles_eq _ (by rw [r.size_derive]; omega), h]
  rfl

/-- The context of a request knows of the cache if the root does. -/
theorem hasChecker_openRequest (service : Service σ) (request : Http.Request) (r : Realm σ) :
    ((service.openRequest request r).2.context r.contexts.size).hasChecker =
      (r.context service.home.root).hasChecker := by
  simp only [Context.hasChecker, Context.handle?, service.handles_openRequest]

/-- The visit to the handler of events that a request to the service becomes. -/
def entered (service : Service σ) (visit : Visit σ) : Visit σ :=
  ⟨some (service.openRequest visit.request visit.start).1, visit.request,
    (service.openRequest visit.request visit.start).2.enter⟩

/-- The service at work on a visit, which has a deadline. -/
def during (service : Service σ) (visit : Visit σ) : Service σ :=
  service.before (deadlineFrom visit.start)

/-- The verdict on a visit, unless the time for the request is over before. -/
def served (service : Service σ) (visit : Visit σ) : Outcome Verdict × Realm σ :=
  (service.during visit).judged (service.entered visit)

/-- What a visit to the service means for the cache. -/
def handled (service : Service σ) (visit : Visit σ) : DuplicateCache.Treatment :=
  (service.during visit).treated (service.entered visit)

theorem entered_quiet (service : Service σ) (visit : Visit σ) :
    Realm.Quiet visit.start (service.entered visit).start :=
  (service.openRequest_quiet visit.request visit.start).trans (Realm.enter_quiet _)

theorem hasChecker_entered (service : Service σ) (visit : Visit σ) :
    ((service.entered visit).start.context
        ((service.entered visit).parent.getD service.home.root)).hasChecker =
      (visit.start.context service.home.root).hasChecker := by
  rw [← service.hasChecker_openRequest visit.request visit.start,
    ← service.openRequest_fst visit.request visit.start]
  rfl

theorem status_withLength (response : Http.Response) :
    response.withLength.status = response.status ∧ response.withLength.body = response.body := by
  unfold Http.Response.withLength
  split <;> exact ⟨rfl, rfl⟩

/-- An event that is posted comes to the handler of events. -/
theorem routes_serve_eq {request : Http.Request} (hmethod : request.method = "POST")
    (hpath : request.path = eventsRoute) (parent : Option ContextId) (r : Realm σ) :
    service.routes.serve parent request r =
      ((service.ingest parent request r).1.map Http.Response.withLength,
        (service.ingest parent request r).2) :=
  RouteTable.serve_eq_of_post hmethod (by rw [hpath]; rfl) parent r

/-- **Answers.** The service answers every event that is posted: with its verdict, with 500 if the
delivery panicked, and with 408, as soon as the time for the request is over, if nothing came of it
before. -/
theorem serve_cases (service : Service σ) {visit : Visit σ}
    (hmethod : visit.request.method = "POST") (hpath : visit.request.path = eventsRoute) :
    ∃ response r', service.serve visit.parent visit.request visit.start =
        (.returned response, r') ∧
      Realm.Retains (service.served visit).2 r' ∧
      r'.downstream = (service.served visit).2.downstream ∧
      r'.systemMillis = (if (service.served visit).1 = .hung then deadlineFrom visit.start
        else (service.served visit).2.systemMillis) ∧
      ((∃ verdict, (service.served visit).1 = .returned verdict ∧
          response.status = verdict.response.status ∧ response.body = verdict.response.body) ∨
        (∃ panic, (service.served visit).1 = .panicked panic ∧ response.status = 500) ∨
        (service.served visit).1 = .hung ∧ response.status = 408) := by
  have hingest := (service.during visit).ingest_cases (service.entered visit).parent
    (service.entered visit).request (service.entered visit).start
  unfold served judged
  unfold during entered at hingest ⊢
  unfold serve containingPanics Realm.contain withTimeLimit
  dsimp only at hingest ⊢
  rw [routes_serve_eq hmethod hpath, deadlineFrom_openRequest]
  obtain ⟨verdict, response, r', hv, he, hq, hanswer⟩ | ⟨panic, hp, he⟩ | ⟨hh, he⟩ := hingest
  · rw [he]
    have hlength := status_withLength response
    have hleft := hq.trans r'.leave_quiet
    refine ⟨response.withLength, r'.leave, rfl, hleft.retains, hleft.downstream_eq,
      hleft.millis_eq.trans ?_,
      .inl ⟨verdict, hv, hlength.1.trans hanswer.1, hlength.2.trans hanswer.2⟩⟩
    rw [hv, if_neg (by simp)]
  · rw [he]
    have hleft : ∀ s : Realm σ, Realm.Quiet s
        (s.leave.reportPanic (service.openRequest visit.request visit.start).1 panic) :=
      fun s => s.leave_quiet.trans (Realm.reportPanic_quiet _ _ _)
    refine ⟨_, _, rfl, (hleft _).retains, (hleft _).downstream_eq, (hleft _).millis_eq.trans ?_,
      .inr (.inl ⟨panic, hp, ?_⟩)⟩
    · rw [hp, if_neg (by simp)]
      rfl
    rw [Http.Response.answering, hmethod, if_neg (by decide), (status_withLength _).1,
      (Http.Response.status_withCorrelation _ _ _).1]
    rfl
  · rw [he]
    exact ⟨_, _, rfl, ⟨.of_contexts_eq rfl, rfl⟩, rfl, (if_pos hh).symm, .inr (.inr ⟨hh, rfl⟩)⟩

theorem served_extends (ht : Transport.Retains service.transport) (visit : Visit σ) :
    Realm.Extends (service.entered visit).start (service.served visit).2 := by
  have hduring : Transport.Retains (service.during visit).transport := ht
  exact judge_extends hduring _ _ _

/-- Events that the service answers one after another are judged one after another. -/
theorem judged_of_serve (ht : Transport.Retains service.transport) {r : Realm σ}
    (hroot : service.home.root < r.contexts.size)
    (hturn : Succession service.serve (r.useChecker service.home.root (.ofWindow window)) n visits)
    (hpost : ∀ i < n, (visits i).request.method = "POST" ∧ (visits i).request.path = eventsRoute) :
    Judged (fun i => service.during (visits i)) window n fun i => service.entered (visits i) := by
  obtain ⟨hlt, hknows, hcache⟩ := r.useChecker_eq hroot (.ofWindow window)
  have hserve : ∀ i < n, Realm.Retains (service.served (visits i)).2
      (service.serve (visits i).parent (visits i).request (visits i).start).2 := by
    intro i hi
    obtain ⟨response, r', he, hleft, -⟩ := service.serve_cases (hpost i hi).1 (hpost i hi).2
    rw [he]
    exact hleft
  have hext : ∀ i < n, Realm.Extends (visits i).start
      (service.serve (visits i).parent (visits i).request (visits i).start).2 := fun i hi =>
    ((service.entered_quiet (visits i)).retains.toExtends.trans (served_extends ht _)).trans
      (hserve i hi).toExtends
  refine ⟨fun _ _ => ht, fun hn => ?_, fun i hi => ?_, fun i hi => ?_⟩
  · rw [(service.entered_quiet (visits 0)).checker_eq, (hturn.first hn).checker_eq, hcache]
  · rw [(service.entered_quiet (visits (i + 1))).checker_eq, (hturn.next i hi).checker_eq,
      (hserve i (Nat.lt_of_succ_lt hi)).checker_eq]
    rfl
  · show ((service.entered (visits i)).start.context
      ((service.entered (visits i)).parent.getD service.home.root)).hasChecker = true
    rw [service.hasChecker_entered (visits i)]
    exact (hturn.knows hext hlt hknows hi).2

/-! ## The next time -/

/-- A delivery that did not come to an end: it panicked, or the time for it was over. -/
def Lost (outcome : Outcome Verdict) : Prop :=
  (∃ panic, outcome = .panicked panic) ∨ outcome = .hung

/-- An event that was let through and not delivered. -/
def Undelivered (outcome : Outcome Verdict) : Prop :=
  Lost outcome ∨ ∃ x, outcome = .returned (.forwarded x) ∧ x.isRetryable = true

theorem Lost.ne_returned {outcome : Outcome Verdict} (h : Lost outcome) (verdict : Verdict) :
    outcome ≠ .returned verdict := by
  obtain ⟨panic, rfl⟩ | rfl := h
  · simp
  · simp

/-- Only with somewhere to deliver it to is an event let through. -/
theorem Judged.endpoint_of_undelivered (h : Judged services window n visits) {i : Nat} (hi : i < n)
    (hundelivered : Undelivered ((services i).judged (visits i)).1) :
    (services i).home.settings.endpoint.isEmpty = false := by
  obtain ⟨caches, -, hcache⟩ := h.treated
  obtain ⟨-, -, hout⟩ | ⟨payload, hask, -⟩ :=
    judge_cases (visits i).request (h.retains i hi) (h.knows i hi) (hcache i hi)
  · have hout : ((services i).judged (visits i)).1 = .returned .unreadable ∨
        ((services i).judged (visits i)).1 = .returned .noEndpoint := hout
    obtain hlost | ⟨x, hx, -⟩ := hundelivered
    · exact (hout.elim (hlost.ne_returned _) (hlost.ne_returned _)).elim
    · rw [hx] at hout
      obtain he | he := hout <;> cases he
  · exact (asked?_eq_some_iff.1 hask).1

/-- **Undelivered events.** Of a payload that was let through and not delivered, the next event is
suppressed exactly when the delivery did not come to an end, the next event is within the window,
and its digest was not crowded out in between. After a delivery that came to an end, or was given
up, it is let through. One that panicked was answered 500, and one that was not over when the time
for the request was, in a send or in a wait, was answered 408. -/
theorem duplicate_iff_lost
    (hwindow : DuplicateWindow.ofSettings service.home.settings = some window)
    (ht : Transport.Retains service.transport) {r : Realm σ}
    (hroot : service.home.root < r.contexts.size)
    (hturn : Succession service.serve (r.useChecker service.home.root (.ofWindow window)) n visits)
    (hpost : ∀ i < n, (visits i).request.method = "POST" ∧ (visits i).request.path = eventsRoute)
    {i j : Nat} (hij : i < j) (hj : j < n) {payload again : ByteArray}
    (hread : (visits i).request.readBody (bodyLimit service.home.settings) = .ok payload)
    (hagain : (visits j).request.readBody (bodyLimit service.home.settings) = .ok again)
    (hsame : digestOf again = digestOf payload)
    (hnext : ∀ k, i < k → k < j → ∀ between,
      (visits k).request.readBody (bodyLimit service.home.settings) = .ok between →
      digestOf between ≠ digestOf payload)
    (hundelivered : Undelivered (service.served (visits i)).1) :
    ((service.served (visits j)).1 = .returned .duplicate ↔
      Lost (service.served (visits i)).1 ∧
        DuplicateCache.Outlasts window.capacity.toNat (digestOf payload)
          (DuplicateCache.Treatment.eventsBefore (fun k => service.handled (visits k)) j) ∧
        (visits j).start.clock.wall.toNat - (visits i).start.clock.wall.toNat <
          min (service.home.settings.duplicateTimeout.toNat * 1000000) (UInt64.size - 1)) ∧
    ((service.served (visits j)).1 ≠ .returned .duplicate →
      (∃ x, (service.served (visits j)).1 = .returned (.forwarded x)) ∨
        Lost (service.served (visits j)).1) ∧
    (∃ response, (service.serve (visits i).parent (visits i).request (visits i).start).1 =
        .returned response ∧
      ((∃ panic, (service.served (visits i)).1 = .panicked panic) → response.status = 500) ∧
      ((service.served (visits i)).1 = .hung → response.status = 408)) := by
  have hjudged := judged_of_serve ht hroot hturn hpost
  obtain ⟨hms, hms0, hcap⟩ := ofWindow_eq hwindow
  obtain ⟨caches, htreated, hcache⟩ := hjudged.treated
  have hi := Nat.lt_trans hij hj
  have hend : service.home.settings.endpoint.isEmpty = false :=
    hjudged.endpoint_of_undelivered hi hundelivered
  have hasked : ∀ {k : Nat} {bytes : ByteArray},
      (service.during (visits k)).asked? (visits k).request = some bytes ↔
        (visits k).request.readBody (bodyLimit service.home.settings) = .ok bytes :=
    asked?_eq_some_iff.trans (and_iff_right hend)
  have hclock : ∀ k, (service.entered (visits k)).start.clock = (visits k).start.clock :=
    fun k => (service.entered_quiet (visits k)).clock_eq
  have hfirst : service.handled (visits i) = .asked (digestOf payload)
      (visits i).start.clock.wall (ending (service.served (visits i)).1) :=
    treated_eq_asked_iff.2 ⟨payload, hasked.2 hread, rfl, congrArg Clock.wall (hclock i), rfl⟩
  have hsecond : service.handled (visits j) = .asked (digestOf payload)
      (visits j).start.clock.wall (ending (service.served (visits j)).1) :=
    treated_eq_asked_iff.2 ⟨again, hasked.2 hagain, hsame, congrArg Clock.wall (hclock j), rfl⟩
  have hnone : ∀ k, i < k → k < j → ∀ u e,
      service.handled (visits k) ≠ .asked (digestOf payload) u e := by
    intro k h₁ h₂ u e htreat
    obtain ⟨between, hask, hd, -⟩ := treated_eq_asked_iff.1 htreat
    exact hnext k h₁ h₂ between (hasked.1 hask) hd
  refine ⟨?_, ?_, ?_⟩
  · rw [← ending_eq_suppressed_iff]
    obtain hlost | ⟨x, hx, hretry⟩ := hundelivered
    · have hkept : ending (service.served (visits i)).1 = .kept := by
        obtain ⟨panic, hp⟩ | hh := hlost
        · rw [hp]; rfl
        · rw [hh]; rfl
      rw [hkept] at hfirst
      have hiff := htreated.suppressed_iff_of_kept (hms ▸ hms0) hcap hij hj hfirst hnone hsecond
      rw [hms] at hiff
      exact hiff.trans (and_iff_right hlost).symm
    · have hwithdrawn : ending (service.served (visits i)).1 = .withdrawn := by
        rw [hx]
        simp [ending, hretry]
      rw [hwithdrawn] at hfirst
      exact iff_of_false
        (htreated.not_suppressed_of_withdrawn (hms ▸ hms0) hcap hij hj hfirst hnone hsecond)
        fun hlost => hlost.1.ne_returned _ hx
  · intro hnot
    obtain ⟨r', hdup, -⟩ | ⟨x, hx, -⟩ | hlost := hjudged.cases hj (hasked.2 hagain)
    · exact absurd (congrArg Prod.fst (hdup service.transport)) hnot
    · exact .inl ⟨x, hx⟩
    · exact .inr hlost
  · obtain ⟨response, r', he, -, -, -, h⟩ := service.serve_cases (hpost i hi).1 (hpost i hi).2
    rw [he]
    refine ⟨response, rfl, ?_⟩
    obtain ⟨verdict, hv, -⟩ | ⟨panic, hp, hstatus⟩ | ⟨hh, hstatus⟩ := h
    · simp [hv]
    · simp [hp, hstatus]
    · simp [hh, hstatus]

/-- The first send panics. -/
def panicking : Realm Script := accepting [⟨some 1, none, none, some (.panic (.text "boom"))⟩]

/-- A service that remembers events for a minute, and waits a minute before it tries again. -/
def dawdling : Service Script :=
  { remembering with courier :=
      ⟨{ RetryPlan.single with maxAttempts := 2, initialDelay := .ofMillis 60000 }, .system⟩ }

/-- A realm in which what lies downstream is busy at every send. -/
def overloaded : Realm Script :=
  { accepting [] with downstream := .ofExchanges [.response 503 .empty] [] }

theorem duplicate_iff_lost_repeated :
    DuplicateWindow.ofSettings remembering.home.settings = some minute ∧
      (Lost (remembering.served (repeated remembering.serve panicking 0)).1 ∧
        (remembering.served (repeated remembering.serve panicking 1)).1 =
          .returned .duplicate) ∧
      (dawdling.served (repeated dawdling.serve overloaded 0)).1 = .hung ∧
        (dawdling.served (repeated dawdling.serve overloaded 1)).1 = .returned .duplicate ∧
        ∃ response, (dawdling.serve none (posted "p") (repeated dawdling.serve overloaded
          0).start).1 = .returned response ∧ response.status = 408 := by
  have hwindow : DuplicateWindow.ofSettings remembering.home.settings = some minute := by decide
  have hpost : ∀ (handler : Handler Script) (r : Realm Script), ∀ i < 2,
      (repeated handler r i).request.method = "POST" ∧
        (repeated handler r i).request.path = eventsRoute := by
    intro handler r i _
    rw [(repeated_eq _ _ i).2]
    exact ⟨rfl, rfl⟩
  have houtlasts : ∀ treatments : Nat → DuplicateCache.Treatment,
      treatments 0 = .asked (digestOf "p".toUTF8) 0 .kept →
      DuplicateCache.Outlasts minute.capacity.toNat (digestOf "p".toUTF8)
        (DuplicateCache.Treatment.eventsBefore treatments 1) := by
    intro treatments hkept
    rw [DuplicateCache.Treatment.eventsBefore, hkept]
    exact .inl rfl
  have hpanicked : Lost (remembering.served (repeated remembering.serve panicking 0)).1 :=
    .inl ⟨.text "boom", by decide +kernel⟩
  have hhung : (dawdling.served (repeated dawdling.serve overloaded 0)).1 = .hung := by
    decide +kernel
  obtain ⟨hiff, -⟩ := duplicate_iff_lost hwindow Script.send_retains
    (show remembering.home.root < panicking.contexts.size by decide)
    (succession_repeated remembering.serve panicking 2) (hpost _ _) (i := 0) (j := 1) (by decide)
    (by decide) (readBody_repeated _ _ 0) (readBody_repeated _ _ 1) rfl (by omega) (.inl hpanicked)
  obtain ⟨hiff', -, response, hanswered, -, htimeout⟩ :=
    duplicate_iff_lost (show DuplicateWindow.ofSettings dawdling.home.settings = _ from hwindow)
      Script.send_retains (show dawdling.home.root < overloaded.contexts.size by decide)
      (succession_repeated dawdling.serve overloaded 2) (hpost _ _) (i := 0) (j := 1) (by decide)
      (by decide) (readBody_repeated _ _ 0) (readBody_repeated _ _ 1) rfl (by omega)
      (.inl (.inr hhung))
  refine ⟨hwindow, ⟨hpanicked, hiff.2 ⟨hpanicked, houtlasts _ ?_, ?_⟩⟩, hhung,
    hiff'.2 ⟨.inr hhung, houtlasts _ ?_, ?_⟩, response, hanswered, htimeout hhung⟩
  · decide +kernel
  · decide +kernel
  · decide +kernel
  · decide +kernel

end Service
end EventRelay
