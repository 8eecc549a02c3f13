import EventRelay.Proofs.Service.Seclusion
import EventRelay.Proofs.Service.Suppression

/-!
# Histories of requests

A service answers one request after the other, and time passes in between. Whatever the requests
were and whatever came of them, the root is afterwards as it was, and the next request is answered
as it would have been after any other history that led to the same duplicate cache, the same clocks
and the same state downstream.

* `Service.after`: the realm after a history of requests.
* `Realm.redrawn`: the same realm with other ids and stack traces to come.
* `after_untouched`: no history touches a context that was there before.
* `Realm.Fork`, `serve_alike`: a request in two realms with one beginning.
* `requests_secluded`: both together, with what is sent.
-/

namespace EventRelay

variable {σ τ : Type}

namespace Realm

/-! ## Realms that differ in what went before -/

/-- The same realm with other ids and stack traces to come. -/
def redrawn (ids : Uuid.Supply) (traces : Nat → String) (r : Realm σ) : Realm σ :=
  { r with ids := ids, capture := { r.capture with traces := traces, taken := 0 } }

/-- The same realm, without the trace that the last panic left. -/
def untraced (r : Realm σ) : Realm σ := { r with capture := { r.capture with trace := none } }

/-- Work that begins in two realms and comes out the same in both: with the same result, with the
same records after those that were there, and with realms that coincide. -/
structure SameWork {α : Type u} (r s : Realm σ) (x y : α × Realm σ) : Prop where
  result_eq : y.1 = x.1
  records_eq : ∃ records, x.2.journal.toList = r.journal.toList ++ records ∧
    y.2.journal.toList = s.journal.toList ++ records
  coincide : Coincide x.2 y.2

variable {r s s' : Realm σ}

theorem Coincide.symm (h : Coincide r s) : Coincide s r :=
  ⟨h.checker_eq.symm, h.clock_eq.symm, h.systemWall_eq.symm, h.downstream_eq.symm⟩

theorem Coincide.trans (h : Coincide r s) (h' : Coincide s s') : Coincide r s' :=
  ⟨h'.checker_eq.trans h.checker_eq, h'.clock_eq.trans h.clock_eq,
    h'.systemWall_eq.trans h.systemWall_eq, h'.downstream_eq.trans h.downstream_eq⟩

theorem Coincide.mapDownstream (h : Coincide r s) (f : σ → τ) :
    Coincide (r.mapDownstream f) (s.mapDownstream f) :=
  ⟨h.checker_eq, h.clock_eq, h.systemWall_eq, congrArg f h.downstream_eq⟩

/-- Two realms that coincide, each made from a third one by work that left its contexts alone. -/
structure Fork (r s s' : Realm σ) : Prop where
  closed : r.Closed r.contexts.size
  calm : r.interrupts = []
  left : Untouched r.contexts.size r s
  right : Untouched r.contexts.size r s'
  coincide : Coincide s s'

theorem Fork.mapDownstream (h : Fork r s s') (f : σ → τ) :
    Fork (r.mapDownstream f) (s.mapDownstream f) (s'.mapDownstream f) :=
  ⟨h.closed, h.calm, h.left.mapDownstream f, h.right.mapDownstream f, h.coincide.mapDownstream f⟩

/-- With the same ids and traces to come the two realms are one realm with two ballasts. -/
theorem Fork.laden (h : Fork r s s') (ids : Uuid.Supply) (traces : Nat → String) :
    ∃ q, Laden (leftBehind r s) q (s.redrawn ids traces).untraced ∧
      Laden (leftBehind r s') q (s'.redrawn ids traces).untraced := by
  have hdrawn : ∀ {t : Realm σ}, Untouched r.contexts.size r t →
      Untouched r.contexts.size r (t.redrawn ids traces).untraced :=
    fun h => h.trans (.of_eq rfl rfl rfl)
  have hcalm : s.interrupts = [] := h.left.interrupts_eq.trans h.calm
  refine ⟨{ (s.redrawn ids traces).untraced with
    contexts := r.contexts, journal := #[], systemMillis := 0 }, ?_, ?_⟩
  · exact (hdrawn h.left).laden h.closed hcalm rfl rfl hcalm rfl
      ⟨⟨rfl, rfl, rfl, rfl⟩, rfl, rfl, rfl, rfl, rfl⟩
  · exact (hdrawn h.right).laden h.closed (h.right.interrupts_eq.trans h.calm) rfl rfl hcalm rfl
      ⟨⟨h.coincide.checker_eq, h.coincide.clock_eq, h.coincide.systemWall_eq,
        h.coincide.downstream_eq⟩, rfl, h.right.depth_eq.trans h.left.depth_eq.symm, rfl, rfl, rfl⟩

end Realm

namespace Service

variable {service : Service σ} {r s s' : Realm σ}

/-! ## One history -/

/-- The realm after some requests, each with the time that passed before it. -/
def after (service : Service σ) : List (Duration × Http.Request) → Realm σ → Realm σ
  | [], r => r
  | (pause, request) :: history, r =>
    service.after history (service.serve none request (r.advance pause)).2

/-- Whatever the requests were and whatever came of them, no context is touched that was there
before the first. -/
theorem after_untouched {n : Nat} (ht : Transport.Confined service.transport)
    (history : List (Duration × Http.Request)) {r : Realm σ} (hn : n ≤ r.contexts.size)
    (hr : r.Closed n) (hcalm : r.interrupts = []) :
    Realm.Untouched n r (service.after history r) := by
  induction history generalizing r with
  | nil => exact .refl r
  | cons event history ih =>
    obtain ⟨pause, request⟩ := event
    have hpaused : Realm.Untouched n r (r.advance pause) := .of_eq rfl rfl rfl
    have hserved := hpaused.trans (serve_confined ht none request (r.advance pause) hn hr hcalm)
    exact hserved.trans (ih (Nat.le_trans hn hserved.size_le) (hserved.closed hr)
      (hserved.interrupts_eq.trans hcalm))

/-! ## Two histories -/

theorem openRequest_untraced (service : Service σ) (request : Http.Request) (r : Realm σ) :
    service.openRequest request r.untraced =
      ((service.openRequest request r).1, (service.openRequest request r).2.untraced) := by
  have hborn : r.untraced.derive service.home.root =
      ((r.derive service.home.root).1, (r.derive service.home.root).2.untraced) := by
    unfold Realm.derive
    dsimp only
    split
    · next hid =>
      rw [if_pos (show (r.context service.home.root).id.isEmpty = true from hid)]
      rfl
    · next hid =>
      rw [if_neg (show ¬ (r.context service.home.root).id.isEmpty = true from hid)]
      rfl
  unfold openRequest Instance.requestContext
  dsimp only
  rw [hborn]
  cases correlationId? service.home.settings request <;> rfl

/-- The trace that an earlier panic left is thrown away before a request is handled. -/
theorem serve_untraced (service : Service σ) (parent : Option ContextId) (request : Http.Request)
    (r : Realm σ) : service.serve parent request r.untraced = service.serve parent request r := by
  unfold serve containingPanics
  dsimp only
  rw [openRequest_untraced]
  rfl

/-- A request comes out the same in two realms that coincide, if the root was left alone on the way
to each. -/
theorem serve_alike (ht : Transport.Oblivious service.transport)
    (h : Realm.Fork r s s') (hroot : service.home.root < r.contexts.size) (ids : Uuid.Supply)
    (traces : Nat → String) (request : Http.Request) :
    Realm.SameWork (s.redrawn ids traces) (s'.redrawn ids traces)
      (service.serve none request (s.redrawn ids traces))
      (service.serve none request (s'.redrawn ids traces)) := by
  obtain ⟨q, hladen, hladen'⟩ := h.laden ids traces
  obtain ⟨hout, hafter⟩ := serve_oblivious ht hroot none request _ _ hladen
  obtain ⟨hout', hafter'⟩ := serve_oblivious ht hroot none request _ _ hladen'
  rw [serve_untraced] at hout hafter hout' hafter'
  exact ⟨hout'.trans hout.symm, ⟨_, hafter.journal_eq, hafter'.journal_eq⟩,
    hafter.toCoincide.symm.trans hafter'.toCoincide⟩

/-- What is sent for it is the same, too. -/
theorem calls_alike (ht : Transport.Oblivious service.transport)
    (h : Realm.Fork r s s') (hroot : service.home.root < r.contexts.size) (ids : Uuid.Supply)
    (traces : Nat → String) (request : Http.Request) :
    service.calls request (s'.redrawn ids traces) =
      service.calls request (s.redrawn ids traces) := by
  have hnoting : Transport.Oblivious (service.noting callOf).transport := by
    refine ht.noting fun b span outbound r s sent sent' hladen _ => ?_
    unfold callOf
    rw [hladen.id_eq]
  have hfork := h.mapDownstream fun t => (t, ([] : List (String × OutboundRequest)))
  have hserved := serve_alike hnoting hfork hroot ids traces request
  exact congrArg Prod.snd hserved.coincide.downstream_eq

/-- **Seclusion of requests.** After any history of requests, on any route and whatever came of
them, the root is as it was. And after any two histories that led to the same duplicate cache, the
same clocks and the same state downstream, a request comes out the same, given the same ids and
stack traces to come: with the same answer, the same sends and the same records. -/
theorem requests_secluded (service : Service σ) (hconfined : Transport.Confined service.transport)
    (hoblivious : Transport.Oblivious service.transport) {r : Realm σ}
    (hroot : service.home.root < r.contexts.size) (hclosed : r.Closed r.contexts.size)
    (hcalm : r.interrupts = []) :
    (∀ history, (service.after history r).context service.home.root =
      r.context service.home.root) ∧
    ∀ history history', Realm.Coincide (service.after history r) (service.after history' r) →
      ∀ ids traces request,
        Realm.SameWork ((service.after history r).redrawn ids traces)
          ((service.after history' r).redrawn ids traces)
          (service.serve none request ((service.after history r).redrawn ids traces))
          (service.serve none request ((service.after history' r).redrawn ids traces)) ∧
        service.calls request ((service.after history' r).redrawn ids traces) =
          service.calls request ((service.after history r).redrawn ids traces) := by
  have huntouched := fun history =>
    after_untouched hconfined history (Nat.le_refl _) hclosed hcalm
  refine ⟨fun history => (huntouched history).context_eq _ hroot,
    fun history history' hcoincide ids traces request => ?_⟩
  have hfork : Realm.Fork r (service.after history r) (service.after history' r) :=
    ⟨hclosed, hcalm, huntouched history, huntouched history', hcoincide⟩
  exact ⟨serve_alike hoblivious hfork hroot ids traces request,
    calls_alike hoblivious hfork hroot ids traces request⟩

/-- A transport that marks the context of a send with its tenant and says so; when there is none, it
abandons that context and panics. -/
def skittish : Transport Unit := fun span request r =>
  match request.headers.find? "X-Tenant-Id" with
  | some tenant =>
    (.returned (.response 200 .empty),
      (r.setLogValue span Key.tenantId (.str tenant)).log span .info "sent" [])
  | none => (.panicked (.text "no tenant"), (r.cancel span).raise (.text "no tenant"))

theorem skittish_confined : Transport.Confined skittish := by
  intro n span request r hspan hlt hr
  have hn : n ≤ r.contexts.size := Nat.le_trans hspan (Nat.le_of_lt hlt)
  unfold skittish
  cases request.headers.find? "X-Tenant-Id" with
  | some tenant => exact (r.setLogValue_untouched hspan _ _).trans (Realm.log_untouched ..)
  | none => exact (r.cancel_untouched hn hr hspan).trans (Realm.raise_untouched ..)

theorem skittish_oblivious : Transport.Oblivious skittish := by
  intro b span request r s h _ _
  unfold skittish
  cases request.headers.find? "X-Tenant-Id" with
  | some tenant => exact ⟨rfl, (h.setLogValue _ _ _).log _ _ _ _⟩
  | none => exact ⟨rfl, (h.cancel span).raise _⟩

/-- A service that delivers through it. -/
def hesitant : Service Unit :=
  .of ⟨0, { Settings.zero with endpoint := "http://down.test/", duplicateTimeout := 60000 }, "test"⟩
    skittish

/-- A realm whose root has a transport, an id and an empty cache. -/
def rooted : Realm Unit :=
  hesitant.opened (((Realm.start (.startingAt 0) (fun n => n) (fun _ => "at 0") ()).addRoot
    .kept).2.setHandle 0 Key.httpTransport .transport)

/-- An event of a tenant. -/
def postedBy (tenant body : String) : Http.Request :=
  { posted body with headers := .ofTexts [("x-tenant-id", tenant)] }

/-- One event that is delivered. -/
def smooth : List (Duration × Http.Request) := [(.ofMillis 1, postedBy "acme" "p")]

/-- The same event without a tenant, whose delivery panics, and a question after the health. -/
def rough : List (Duration × Http.Request) :=
  [(.ofMillis 1, posted "p"), (.ofMillis 0, ⟨"GET", "/health", "", [], .empty, none⟩)]

theorem requests_secluded_hesitant :
    Transport.Confined hesitant.transport ∧ Transport.Oblivious hesitant.transport ∧
      rooted.Closed rooted.contexts.size ∧
      Realm.Coincide (hesitant.after smooth rooted) (hesitant.after rough rooted) ∧
      (hesitant.after rough rooted).context 0 = rooted.context 0 ∧
      (hesitant.after rough rooted).journal.map (fun e => e.2.message) ≠
        (hesitant.after smooth rooted).journal.map (fun e => e.2.message) ∧
      ∀ ids traces,
        Realm.SameWork ((hesitant.after smooth rooted).redrawn ids traces)
          ((hesitant.after rough rooted).redrawn ids traces)
          (hesitant.serve none (postedBy "globex" "q")
            ((hesitant.after smooth rooted).redrawn ids traces))
          (hesitant.serve none (postedBy "globex" "q")
            ((hesitant.after rough rooted).redrawn ids traces)) ∧
        hesitant.calls (postedBy "globex" "q") ((hesitant.after rough rooted).redrawn ids traces) =
          hesitant.calls (postedBy "globex" "q")
            ((hesitant.after smooth rooted).redrawn ids traces) := by
  have hcoincide : Realm.Coincide (hesitant.after smooth rooted) (hesitant.after rough rooted) :=
    ⟨by decide +kernel, by decide +kernel, by decide +kernel, rfl⟩
  have hclosed : rooted.Closed rooted.contexts.size := by
    unfold Realm.Closed
    decide +kernel
  obtain ⟨hkept, hsame⟩ := requests_secluded hesitant skittish_confined skittish_oblivious
    (show hesitant.home.root < rooted.contexts.size by decide +kernel) hclosed
    (show rooted.interrupts = [] by decide +kernel)
  exact ⟨skittish_confined, skittish_oblivious, hclosed, hcoincide, hkept rough, by decide +kernel,
    fun ids traces => hsame smooth rough hcoincide ids traces (postedBy "globex" "q")⟩

end Service
end EventRelay
