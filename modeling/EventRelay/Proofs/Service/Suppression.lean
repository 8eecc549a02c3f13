import EventRelay.Proofs.Service.Ingest

/-!
# Which events are suppressed

Events come in one after another, each under the root or under a context that knows of the duplicate
cache; between them clocks may move and anything may happen downstream. This module says of every
such sequence which of its events are answered as duplicates.

* `Visit`: an event and the realm that it comes into.
* `Succession`: events that a handler answers one after another.
* `Judged`: the same as far as the cache is concerned, each event by a service of its own.
  `Judged.treated`: the cache runs through the treatments of the events.
* `Judged.duplicate_answer`, `Judged.forwarded_answer`: how its events are answered.
* `duplicate_iff_delivered`: an event is suppressed exactly when the latest event with its digest
  that was delivered was accepted, within the window.
-/

namespace EventRelay

variable {σ : Type}

/-- An event that comes in: the context of its request, if there is one, the request, and the realm
at that moment. -/
structure Visit (σ : Type) where
  parent : Option ContextId
  request : Http.Request
  start : Realm σ

/-- The handler answers the first `n` visits one after another, beginning in a realm. What happens
before and between them loses no context and leaves the duplicate cache alone. -/
structure Succession (handler : Handler σ) (r : Realm σ) (n : Nat) (visits : Nat → Visit σ) :
    Prop where
  first : 0 < n → Realm.Retains r (visits 0).start
  next : ∀ i, i + 1 < n →
    Realm.Retains (handler (visits i).parent (visits i).request (visits i).start).2
      (visits (i + 1)).start

/-- A context that knew of the cache in the beginning knows of it all along, if the handler leaves
it so. -/
theorem Succession.knows {handler : Handler σ} {r : Realm σ} {n : Nat} {visits : Nat → Visit σ}
    (h : Succession handler r n visits)
    (hext : ∀ i < n, Realm.Extends (visits i).start
      (handler (visits i).parent (visits i).request (visits i).start).2) {c : ContextId}
    (hc : c < r.contexts.size) (hr : (r.context c).hasChecker = true) {i : Nat} (hi : i < n) :
    c < (visits i).start.contexts.size ∧ ((visits i).start.context c).hasChecker = true := by
  induction i with
  | zero =>
    have hfirst := h.first hi
    exact ⟨Nat.lt_of_lt_of_le hc hfirst.size_le, (hfirst.hasChecker_eq c hc).trans hr⟩
  | succ i ih =>
    obtain ⟨hlt, hknows⟩ := ih (Nat.lt_of_succ_lt hi)
    have hstep := (hext i (Nat.lt_of_succ_lt hi)).trans (h.next i hi).toExtends
    exact ⟨Nat.lt_of_lt_of_le hlt hstep.size_le, (hstep.hasChecker_eq c hlt).trans hknows⟩

/-- Who sets up a duplicate cache knows of it. -/
theorem Realm.useChecker_eq (r : Realm σ) {c : ContextId} (hc : c < r.contexts.size)
    (cache : DuplicateCache) : c < (r.useChecker c cache).contexts.size ∧
      ((r.useChecker c cache).context c).hasChecker = true ∧
      (r.useChecker c cache).checker = some cache := by
  refine ⟨by simpa [useChecker, setHandle, update] using hc, ?_, rfl⟩
  have hself := Realm.setHandle_self { r with checker := some cache } hc Key.duplicateChecker
    .checker
  rw [useChecker, Context.hasChecker, hself]
  rfl

namespace Service

variable {service : Service σ} {services : Nat → Service σ} {window : DuplicateWindow} {n : Nat}
  {visits : Nat → Visit σ}

/-- The verdict on a visit. -/
def judged (service : Service σ) (visit : Visit σ) : Outcome Verdict × Realm σ :=
  service.judge visit.parent visit.request visit.start

/-- What a visit means for the cache. -/
def treated (service : Service σ) (visit : Visit σ) : DuplicateCache.Treatment :=
  service.treatment visit.request visit.start.clock.wall (service.judged visit).1

/-- The cache before a visit, or what took its place. -/
def checkerBefore (services : Nat → Service σ) (window : DuplicateWindow)
    (visits : Nat → Visit σ) (i : Nat) : Option DuplicateCache :=
  if i = 0 then some (.ofWindow window)
  else ((services (i - 1)).judged (visits (i - 1))).2.checker

/-- The first `n` visits are judged one after another, each by a service of its own, with a cache
that is empty at first. -/
structure Judged (services : Nat → Service σ) (window : DuplicateWindow) (n : Nat)
    (visits : Nat → Visit σ) : Prop where
  retains : ∀ i < n, Transport.Retains (services i).transport
  first : 0 < n → (visits 0).start.checker = some (.ofWindow window)
  next : ∀ i, i + 1 < n →
    (visits (i + 1)).start.checker = ((services i).judged (visits i)).2.checker
  knows : ∀ i < n, ((visits i).start.context
    ((visits i).parent.getD (services i).home.root)).hasChecker = true

/-! ## The window of the settings -/

/-- The window is that of the settings, and there is room for one digest at least. -/
theorem ofWindow_eq {settings : Settings} (h : DuplicateWindow.ofSettings settings = some window) :
    (DuplicateCache.ofWindow window).windowMs = settings.duplicateTimeout ∧
      settings.duplicateTimeout ≠ 0 ∧ 0 < window.capacity.toNat := by
  unfold DuplicateWindow.ofSettings at h
  split at h
  · cases h
  · next hne =>
    obtain rfl := Option.some.inj h
    refine ⟨?_, hne, ?_⟩
    · have hlt := settings.duplicateTimeout.toNat_lt_size
      simp only [DuplicateCache.ofWindow, DuplicateCache.new, Duration.wholeMillis,
        Duration.nanos_ofMillis, Nat.mul_div_cancel _ (Nat.succ_pos 999999)]
      rw [Nat.min_eq_left (by omega), UInt64.ofNat_toNat]
    · split
      · show 0 < DuplicateWindow.defaultCapacity.toNat
        decide
      · next hsize =>
        refine Nat.pos_of_ne_zero fun hzero => hsize ?_
        exact UInt64.toNat_inj.1 hzero

/-! ## Treatments -/

/-- The cache runs through the treatments of the visits. -/
theorem Judged.treated (h : Judged services window n visits) :
    ∃ caches, DuplicateCache.Treated (DuplicateCache.ofWindow window).windowMs
        window.capacity.toNat n (fun i => (services i).treated (visits i)) caches ∧
      ∀ i < n, (visits i).start.checker = some (caches i) := by
  have hstart : ∀ i < n, (visits i).start.checker = checkerBefore services window visits i := by
    intro i hi
    cases i with
    | zero => exact h.first hi
    | succ i => exact h.next i hi
  have hheld : ∀ i ≤ n, ∃ cache, checkerBefore services window visits i = some cache := by
    intro i
    induction i with
    | zero => exact fun _ => ⟨_, rfl⟩
    | succ i ih =>
      intro hi
      obtain ⟨cache, hcache⟩ := ih (Nat.le_of_succ_le hi)
      obtain ⟨cache', hcache', -⟩ := judge_leads (visits i).request (h.retains i hi) (h.knows i hi)
        ((hstart i hi).trans hcache)
      exact ⟨cache', hcache'⟩
  have hget : ∀ i ≤ n, checkerBefore services window visits i =
      some ((checkerBefore services window visits i).getD (.ofWindow window)) := by
    intro i hi
    obtain ⟨cache, hcache⟩ := hheld i hi
    rw [hcache]
    rfl
  refine ⟨fun i => (checkerBefore services window visits i).getD (.ofWindow window),
    ⟨rfl, fun i hi => ?_⟩, fun i hi => (hstart i hi).trans (hget i (Nat.le_of_lt hi))⟩
  obtain ⟨cache', hcache', hleads⟩ := judge_leads (visits i).request (h.retains i hi)
    (h.knows i hi) ((hstart i hi).trans (hget i (Nat.le_of_lt hi)))
  rw [show checkerBefore services window visits (i + 1) = some cache' from hcache']
  exact hleads

theorem treated_eq_asked_iff {visit : Visit σ} {d : String} {t : UInt64}
    {e : DuplicateCache.Ending} : service.treated visit = .asked d t e ↔
      ∃ payload, service.asked? visit.request = some payload ∧ digestOf payload = d ∧
        visit.start.clock.wall = t ∧ ending (service.judged visit).1 = e := by
  unfold Service.treated treatment
  cases service.asked? visit.request with
  | none => simp
  | some payload => simp

theorem ending_eq_suppressed_iff {outcome : Outcome Verdict} :
    ending outcome = .suppressed ↔ outcome = .returned .duplicate := by
  constructor
  · intro h
    unfold ending at h
    split at h
    · rfl
    · split at h <;> cases h
    · cases h
  · rintro rfl
    rfl

/-- A visit about whose payload the cache is asked is suppressed and goes nowhere, or it is
delivered. -/
theorem Judged.cases (h : Judged services window n visits) {i : Nat} (hi : i < n)
    {payload : ByteArray} (hask : (services i).asked? (visits i).request = some payload) :
    (∃ r', (∀ t, ({ services i with transport := t } : Service σ).judged (visits i) =
        (.returned .duplicate, r')) ∧ r'.downstream = (visits i).start.downstream) ∨
      (∃ x, ((services i).judged (visits i)).1 = .returned (.forwarded x) ∧
        (services i).Delivers (visits i).parent payload x (visits i).start
          ((services i).judged (visits i)).2) ∨
      (∃ panic, ((services i).judged (visits i)).1 = .panicked panic) ∨
      ((services i).judged (visits i)).1 = .hung := by
  obtain ⟨caches, -, hcache⟩ := h.treated
  obtain ⟨hnone, -⟩ | ⟨bytes, hsome, hcases⟩ :=
    judge_cases (visits i).request (h.retains i hi) (h.knows i hi) (hcache i hi)
  · rw [hask] at hnone
    cases hnone
  · rw [hask] at hsome
    obtain rfl := Option.some.inj hsome
    obtain ⟨-, r', he, -, hdown⟩ | ⟨-, ⟨x, hx, hdelivers, -⟩ | ⟨hlost, -⟩⟩ := hcases
    · exact .inl ⟨r', he, hdown⟩
    · exact .inr (.inl ⟨x, hx, hdelivers⟩)
    · exact .inr (.inr hlost)

/-- With a verdict such a visit is suppressed, or its delivery came to an end. -/
theorem Judged.cases_of_returned (h : Judged services window n visits) {i : Nat} (hi : i < n)
    {payload : ByteArray} (hask : (services i).asked? (visits i).request = some payload)
    (hverdict : ∃ verdict, ((services i).judged (visits i)).1 = .returned verdict) :
    (∃ r', (∀ t, ({ services i with transport := t } : Service σ).judged (visits i) =
        (.returned .duplicate, r')) ∧ r'.downstream = (visits i).start.downstream) ∨
      ∃ x, ((services i).judged (visits i)).1 = .returned (.forwarded x) ∧
        (services i).Delivers (visits i).parent payload x (visits i).start
          ((services i).judged (visits i)).2 := by
  obtain ⟨verdict, hv⟩ := hverdict
  obtain hdup | hx | ⟨panic, hp⟩ | hh := h.cases hi hask
  · exact .inl hdup
  · exact .inr hx
  · rw [hp] at hv
    cases hv
  · rw [hh] at hv
    cases hv

/-! ## Answers by ingestion -/

theorem ingest_extends (ht : Transport.Retains service.transport) (parent : Option ContextId)
    (request : Http.Request) (r : Realm σ) :
    Realm.Extends r (service.ingest parent request r).2 := by
  have hjudge := judge_extends ht parent request r
  obtain ⟨verdict, response, r', -, he, hq, -⟩ | ⟨panic, -, he⟩ | ⟨-, he⟩ :=
    service.ingest_cases parent request r
  · rw [he]
    exact hjudge.trans hq.retains.toExtends
  · rw [he]
    exact hjudge
  · rw [he]
    exact hjudge

theorem checker_ingest (service : Service σ) (parent : Option ContextId) (request : Http.Request)
    (r : Realm σ) : (service.ingest parent request r).2.checker =
      (service.judge parent request r).2.checker := by
  obtain ⟨verdict, response, r', -, he, hq, -⟩ | ⟨panic, -, he⟩ | ⟨-, he⟩ :=
    service.ingest_cases parent request r
  · rw [he]
    exact hq.checker_eq
  · rw [he]
  · rw [he]

/-- Events that are taken in one after another are judged one after another. -/
theorem judged_of_ingest (ht : Transport.Retains service.transport) {r : Realm σ}
    (hroot : service.home.root < r.contexts.size)
    (hturn : Succession service.ingest (r.useChecker service.home.root (.ofWindow window)) n visits)
    (hparent : ∀ i < n, ∀ c, (visits i).parent = some c →
      ((visits i).start.context c).hasChecker = true) :
    Judged (fun _ => service) window n visits := by
  obtain ⟨hlt, hknows, hcache⟩ := r.useChecker_eq hroot (.ofWindow window)
  refine ⟨fun _ _ => ht, fun hn => (hturn.first hn).checker_eq.trans hcache, fun i hi => ?_,
    fun i hi => ?_⟩
  · rw [(hturn.next i hi).checker_eq]
    exact service.checker_ingest _ _ _
  · cases hp : (visits i).parent with
    | none => exact (hturn.knows (fun i _ => ingest_extends ht _ _ _) hlt hknows hi).2
    | some c => exact hparent i hi c hp

/-- An event with a verdict is answered by it, and nothing happens downstream after the verdict. -/
theorem ingest_of_returned {visit : Visit σ} {verdict : Verdict} {s : Realm σ}
    (h : service.judged visit = (.returned verdict, s)) :
    ∃ response r', service.ingest visit.parent visit.request visit.start =
        (.returned response, r') ∧
      response.status = verdict.response.status ∧ response.body = verdict.response.body ∧
      r'.downstream = s.downstream := by
  have hjudge : service.judge visit.parent visit.request visit.start = (.returned verdict, s) := h
  obtain ⟨verdict', response, r', hv, he, hq, hstatus, hbody⟩ | ⟨panic, hp, -⟩ | ⟨hh, -⟩ :=
    service.ingest_cases visit.parent visit.request visit.start
  · rw [hjudge] at hv hq
    obtain rfl := Outcome.returned.inj hv
    exact ⟨response, r', he, hstatus, hbody, hq.downstream_eq⟩
  · rw [hjudge] at hp
    cases hp
  · rw [hjudge] at hh
    cases hh

/-- A suppressed event is answered at once, whatever lies downstream. -/
theorem Judged.duplicate_answer (h : Judged services window n visits) {i : Nat} (hi : i < n)
    {payload : ByteArray} (hask : (services i).asked? (visits i).request = some payload)
    (hduplicate : ((services i).judged (visits i)).1 = .returned .duplicate) :
    ∃ response r', (∀ t, ({ services i with transport := t } : Service σ).ingest
        (visits i).parent (visits i).request (visits i).start = (.returned response, r')) ∧
      response.status = 200 ∧
      response.body = "\x7b\"status\":\"duplicate\"\x7d".toUTF8 ∧
      r'.downstream = (visits i).start.downstream := by
  obtain ⟨s, hdup, hdown⟩ | ⟨x, hx, -⟩ := h.cases_of_returned hi hask ⟨_, hduplicate⟩
  · have hsame : ∀ t, ({ services i with transport := t } : Service σ).ingest (visits i).parent
        (visits i).request (visits i).start = (services i).ingest (visits i).parent
          (visits i).request (visits i).start :=
      fun t => ingest_transport ((hdup t).trans (hdup (services i).transport).symm)
    obtain ⟨response, r', he, hstatus, hbody, hafter⟩ :=
      ingest_of_returned (hdup (services i).transport)
    refine ⟨response, r', fun t => (hsame t).trans he, hstatus, hbody.trans ?_,
      hafter.trans hdown⟩
    decide +kernel
  · rw [hduplicate] at hx
    cases hx

/-- Any other event whose payload the cache is asked about is delivered once and answered with what
that brought back. -/
theorem Judged.forwarded_answer (h : Judged services window n visits) {i : Nat} (hi : i < n)
    {payload : ByteArray} (hask : (services i).asked? (visits i).request = some payload)
    (hverdict : ∃ verdict, ((services i).judged (visits i)).1 = .returned verdict)
    (hnew : ((services i).judged (visits i)).1 ≠ .returned .duplicate) :
    ∃ x response r', ((services i).judged (visits i)).1 = .returned (.forwarded x) ∧
      (services i).ingest (visits i).parent (visits i).request (visits i).start =
        (.returned response, r') ∧
      response.status = (Verdict.forwarded x).response.status ∧
      response.body = (Verdict.forwarded x).response.body ∧
      (services i).Delivers (visits i).parent payload x (visits i).start r' := by
  obtain ⟨s, hdup, -⟩ | ⟨x, hx, hdelivers⟩ := h.cases_of_returned hi hask hverdict
  · exact absurd (congrArg Prod.fst (hdup (services i).transport)) hnew
  · obtain ⟨response, r', he, hstatus, hbody, hafter⟩ :=
      ingest_of_returned (show (services i).judged (visits i) = (_, _) from Prod.ext hx rfl)
    exact ⟨x, response, r', hx, he, hstatus, hbody, hdelivers.congr rfl rfl hafter⟩

/-- A visit comes to an end exactly when there is a verdict on it. -/
theorem exists_verdict_iff {visit : Visit σ} :
    (∃ verdict, (service.judged visit).1 = .returned verdict) ↔
      ∃ response, (service.ingest visit.parent visit.request visit.start).1 =
        .returned response := by
  obtain ⟨verdict, response, r', hv, he, -⟩ | ⟨panic, hp, he⟩ | ⟨hh, he⟩ :=
    service.ingest_cases visit.parent visit.request visit.start
  · rw [he]
    exact ⟨fun _ => ⟨response, rfl⟩, fun _ => ⟨verdict, hv⟩⟩
  · rw [he, judged, hp]
    simp
  · rw [he, judged, hh]
    simp

/-- Of the visits with a verdict those are kept whose exchange was not worth another try. -/
theorem Judged.kept_iff (h : Judged services window n visits) {j : Nat} (hj : j < n)
    (hverdict : ∃ verdict, ((services j).judged (visits j)).1 = .returned verdict) {d : String}
    {s : UInt64} : (services j).treated (visits j) = .asked d s .kept ↔
      ∃ payload x, (services j).asked? (visits j).request = some payload ∧ digestOf payload = d ∧
        (visits j).start.clock.wall = s ∧
        ((services j).judged (visits j)).1 = .returned (.forwarded x) ∧ x.isRetryable = false := by
  rw [treated_eq_asked_iff]
  constructor
  · rintro ⟨payload, hask, hd, hs, he⟩
    obtain ⟨r', hdup, -⟩ | ⟨x, hx, -⟩ := h.cases_of_returned hj hask hverdict
    · rw [show (services j).judged (visits j) = _ from hdup (services j).transport] at he
      cases he
    · refine ⟨payload, x, hask, hd, hs, hx, ?_⟩
      rw [hx] at he
      cases hr : x.isRetryable with
      | false => rfl
      | true => simp [ending, hr] at he
  · rintro ⟨payload, x, hask, hd, hs, hx, hr⟩
    exact ⟨payload, hask, hd, hs, by rw [hx]; simp [ending, hr]⟩

/-- A digest is not let through by a visit exactly when no payload with it is forwarded there. -/
theorem Judged.suppressed_iff (h : Judged services window n visits) {k : Nat} (hk : k < n)
    (hverdict : ∃ verdict, ((services k).judged (visits k)).1 = .returned verdict) {d : String} :
    (∀ u e, (services k).treated (visits k) = .asked d u e → e = .suppressed) ↔
      ∀ payload y, (services k).asked? (visits k).request = some payload →
        digestOf payload = d → ((services k).judged (visits k)).1 ≠ .returned (.forwarded y) := by
  constructor
  · intro hsup payload y hask hd hy
    have he := hsup _ _ (treated_eq_asked_iff.2 ⟨payload, hask, hd, rfl, rfl⟩)
    rw [ending_eq_suppressed_iff, hy] at he
    cases he
  · intro hnone u e htreated
    obtain ⟨payload, hask, hd, -, rfl⟩ := treated_eq_asked_iff.1 htreated
    rw [ending_eq_suppressed_iff]
    obtain ⟨r', hdup, -⟩ | ⟨x, hx, -⟩ := h.cases_of_returned hk hask hverdict
    · rw [show (services k).judged (visits k) = _ from hdup (services k).transport]
    · exact absurd hx (hnone payload x hask hd)

/-- **Duplicates.** With suppression on and room for every digest that comes, an event whose body
can be read is a duplicate exactly when an earlier event with its digest was delivered, the latest
such delivery brought back an exchange that is not worth another try, and the clock has moved less
than the window from the check of that event to this one; both checks read it as their events
arrive. A duplicate is answered as such and nothing goes downstream; any other event is delivered
once and answered with what that brought back. -/
theorem duplicate_iff_delivered
    (hwindow : DuplicateWindow.ofSettings service.home.settings = some window)
    (hend : service.home.settings.endpoint.isEmpty = false)
    (ht : Transport.Retains service.transport)
    {r : Realm σ} (hroot : service.home.root < r.contexts.size)
    (hturn : Succession service.ingest (r.useChecker service.home.root (.ofWindow window)) n visits)
    (hparent : ∀ i < n, ∀ c, (visits i).parent = some c →
      ((visits i).start.context c).hasChecker = true)
    (hdone : ∀ i < n, ∃ response,
      (service.ingest (visits i).parent (visits i).request (visits i).start).1 =
        .returned response)
    {digests : Finset String} (hfits : digests.card ≤ window.capacity.toNat)
    (hdigests : ∀ i < n, ∀ payload,
      (visits i).request.readBody (bodyLimit service.home.settings) = .ok payload →
      digestOf payload ∈ digests)
    {i : Nat} (hi : i < n) {payload : ByteArray}
    (hread : (visits i).request.readBody (bodyLimit service.home.settings) = .ok payload) :
    ((service.judged (visits i)).1 = .returned .duplicate ↔
      ∃ j < i, ∃ before x,
        (visits j).request.readBody (bodyLimit service.home.settings) = .ok before ∧
        digestOf before = digestOf payload ∧
        (service.judged (visits j)).1 = .returned (.forwarded x) ∧ x.isRetryable = false ∧
        (∀ k, j < k → k < i → ∀ between y,
          (visits k).request.readBody (bodyLimit service.home.settings) = .ok between →
          digestOf between = digestOf payload →
          (service.judged (visits k)).1 ≠ .returned (.forwarded y)) ∧
        (visits i).start.clock.wall.toNat - (visits j).start.clock.wall.toNat <
          min (service.home.settings.duplicateTimeout.toNat * 1000000) (UInt64.size - 1)) ∧
    ((service.judged (visits i)).1 = .returned .duplicate →
      ∃ response r', (∀ t, ({ service with transport := t } : Service σ).ingest (visits i).parent
          (visits i).request (visits i).start = (.returned response, r')) ∧
        response.status = 200 ∧
        response.body = "\x7b\"status\":\"duplicate\"\x7d".toUTF8 ∧
        r'.downstream = (visits i).start.downstream) ∧
    ((service.judged (visits i)).1 ≠ .returned .duplicate →
      ∃ x response r', (service.judged (visits i)).1 = .returned (.forwarded x) ∧
        service.ingest (visits i).parent (visits i).request (visits i).start =
          (.returned response, r') ∧
        response.status = (Verdict.forwarded x).response.status ∧
        response.body = (Verdict.forwarded x).response.body ∧
        service.Delivers (visits i).parent payload x (visits i).start r') := by
  have hjudged := judged_of_ingest ht hroot hturn hparent
  obtain ⟨hms, hms0, hcap⟩ := ofWindow_eq hwindow
  obtain ⟨caches, htreated, -⟩ := hjudged.treated
  have hasked : ∀ {request : Http.Request} {bytes : ByteArray},
      service.asked? request = some bytes ↔
        request.readBody (bodyLimit service.home.settings) = .ok bytes :=
    asked?_eq_some_iff.trans (and_iff_right hend)
  have hverdict := fun k hk => exists_verdict_iff.2 (hdone k hk)
  have hroom : (DuplicateCache.Treatment.digestsBefore (fun k => service.treated (visits k))
      n).card ≤ window.capacity.toNat := by
    refine (Finset.card_le_card fun d hd => ?_).trans hfits
    obtain ⟨k, hk, hd⟩ := Finset.mem_biUnion.1 hd
    obtain ⟨t, e, hkd⟩ := DuplicateCache.Treatment.mem_digests_iff.1 hd
    obtain ⟨bytes, hask, rfl, -⟩ := treated_eq_asked_iff.1 hkd
    exact hdigests k (Finset.mem_range.1 hk) bytes (hasked.1 hask)
  have hi' : service.treated (visits i) = .asked (digestOf payload) (visits i).start.clock.wall
      (ending (service.judged (visits i)).1) :=
    treated_eq_asked_iff.2 ⟨payload, hasked.2 hread, rfl, rfl, rfl⟩
  refine ⟨?_, ?_, ?_⟩
  · rw [← ending_eq_suppressed_iff,
      htreated.suppressed_iff_kept (hms ▸ hms0) hcap hroom hi hi', hms]
    refine exists_congr fun j => and_congr_right fun hj => ?_
    have hjn := Nat.lt_trans hj hi
    constructor
    · rintro ⟨s, hkept, hlast, hlt⟩
      obtain ⟨before, x, hask, hd, rfl, hx, hr⟩ :=
        (hjudged.kept_iff hjn (hverdict j hjn)).1 hkept
      refine ⟨before, x, hasked.1 hask, hd, hx, hr, fun k h₁ h₂ between y hb => ?_, hlt⟩
      exact (hjudged.suppressed_iff (Nat.lt_trans h₂ hi) (hverdict k (Nat.lt_trans h₂ hi))).1
        (hlast k h₁ h₂) between y (hasked.2 hb)
    · rintro ⟨before, x, hb, hd, hx, hr, hlast, hlt⟩
      refine ⟨_, (hjudged.kept_iff hjn (hverdict j hjn)).2
        ⟨before, x, hasked.2 hb, hd, rfl, hx, hr⟩, fun k h₁ h₂ => ?_, hlt⟩
      exact (hjudged.suppressed_iff (Nat.lt_trans h₂ hi) (hverdict k (Nat.lt_trans h₂ hi))).2
        fun between y hask => hlast k h₁ h₂ between y (hasked.1 hask)
  · exact fun hdup => hjudged.duplicate_answer hi (hasked.2 hread) hdup
  · exact fun hnew => hjudged.forwarded_answer hi (hasked.2 hread) (hverdict i hi) hnew

/-- A service that remembers events for a minute. -/
def remembering : Service Script :=
  .of ⟨0, { Settings.zero with endpoint := "http://down.test/", duplicateTimeout := 60000 },
    "test"⟩ Script.send

/-- The window of that service. -/
def minute : DuplicateWindow := ⟨.ofMillis 60000, DuplicateWindow.defaultCapacity⟩

/-- A realm whose root has a transport; what lies downstream accepts every event, but for the given
faults. -/
def accepting (faults : List Fault) : Realm Script :=
  (((Realm.start (.startingAt 0) (fun n => n) (fun _ => "") (.ofExchanges [] faults)).addRoot
    .kept).2.setHandle 0 Key.httpTransport .transport).setId 0 "root"

/-- An event that is posted. -/
def posted (body : String) : Http.Request := ⟨"POST", eventsRoute, "", [], body.toUTF8, none⟩

/-- One event that comes in again and again, first in a realm that is given a cache. -/
def repeated (handler : Handler Script) (r : Realm Script) : Nat → Visit Script
  | 0 => ⟨none, posted "p", r.useChecker 0 (.ofWindow minute)⟩
  | i + 1 => ⟨none, posted "p", (handler none (posted "p") (repeated handler r i).start).2⟩

theorem repeated_eq (handler : Handler Script) (r : Realm Script) (i : Nat) :
    (repeated handler r i).parent = none ∧ (repeated handler r i).request = posted "p" := by
  cases i <;> exact ⟨rfl, rfl⟩

theorem readBody_repeated (handler : Handler Script) (r : Realm Script) (i : Nat) :
    (repeated handler r i).request.readBody (bodyLimit remembering.home.settings) =
      .ok "p".toUTF8 := by
  rw [(repeated_eq handler r i).2]
  decide

theorem succession_repeated (handler : Handler Script) (r : Realm Script) (n : Nat) :
    Succession handler (r.useChecker 0 (.ofWindow minute)) n (repeated handler r) := by
  refine ⟨fun _ => .refl _, fun i _ => ?_⟩
  rw [(repeated_eq handler r i).1, (repeated_eq handler r i).2]
  exact .refl _

/-- Such events, of which each is handled and accepted. -/
def accepted : Nat → Visit Script := repeated remembering.ingest (accepting [])

theorem duplicate_iff_delivered_repeated :
    DuplicateWindow.ofSettings remembering.home.settings = some minute ∧
      remembering.home.settings.endpoint.isEmpty = false ∧
      remembering.home.root < (accepting []).contexts.size ∧
      (remembering.judged (accepted 1)).1 = .returned .duplicate := by
  have hwindow : DuplicateWindow.ofSettings remembering.home.settings = some minute := by decide
  have hend : remembering.home.settings.endpoint.isEmpty = false := by decide
  have hroot : remembering.home.root < (accepting []).contexts.size := by decide
  have hread : ∀ i, (accepted i).request.readBody (bodyLimit remembering.home.settings) =
      .ok "p".toUTF8 := readBody_repeated remembering.ingest (accepting [])
  have hfirst : (remembering.judged (accepted 0)).1 =
      .returned (.forwarded (.response 200 .empty)) := by decide +kernel
  have hsecond : (remembering.judged (accepted 1)).1 = .returned .duplicate := by decide +kernel
  have hdone : ∀ i < 2, ∃ response, (remembering.ingest (accepted i).parent (accepted i).request
      (accepted i).start).1 = .returned response := by
    intro i hi
    rw [← exists_verdict_iff]
    obtain rfl | rfl : i = 0 ∨ i = 1 := by omega
    · exact ⟨_, hfirst⟩
    · exact ⟨_, hsecond⟩
  have hdigests : ∀ i < 2, ∀ payload,
      (accepted i).request.readBody (bodyLimit remembering.home.settings) = .ok payload →
      digestOf payload ∈ ({digestOf "p".toUTF8} : Finset String) := by
    intro i hi payload hp
    rw [hread i] at hp
    cases hp
    exact Finset.mem_singleton_self _
  have hparent : ∀ i < 2, ∀ c, (accepted i).parent = some c →
      ((accepted i).start.context c).hasChecker = true := by
    intro i _ c hc
    rw [accepted, (repeated_eq _ _ i).1] at hc
    cases hc
  obtain ⟨hiff, -⟩ := duplicate_iff_delivered hwindow hend Script.send_retains hroot
    (succession_repeated remembering.ingest (accepting []) 2) hparent hdone (by decide) hdigests
    (i := 1) (by decide) (hread 1)
  exact ⟨hwindow, hend, hroot, hiff.2 ⟨0, by decide, _, _, hread 0, rfl, hfirst, by decide,
    by omega, by decide +kernel⟩⟩

end Service
end EventRelay
