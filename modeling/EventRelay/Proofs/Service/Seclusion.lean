import EventRelay.Proofs.Delivery.Seclusion
import EventRelay.Proofs.Service.Watch

/-!
# Requests that stay with their own contexts

Whatever answers a request writes to the context that was made for it and to those derived from that
one. So no context that was there before is touched, and what earlier requests left behind does not
matter. Both are proved of each stage of an event, of every endpoint, of the routes and of what
stands around them. The deadline of a request goes on with the machine's timer, so on the way to the
whole service two handlers are compared whose deadlines are apart by its lead.

* `Handler.Confined`, `Handler.Matches`, `Handler.Oblivious`: what is said of whatever answers a
  request.
* `Service.ahead`: the service with a later deadline.
* `RouteTable.serve_confined`, `RouteTable.serve_matches`: routes, if it holds of every endpoint.
* `Service.serve_confined`, `Service.serve_oblivious`: the whole service, on every route.
-/

namespace EventRelay

variable {σ : Type} {n : Nat} {b : Ballast}

/-- Answers leave the first contexts alone, as long as nobody waits to abandon anything. -/
def Handler.Confined (n : Nat) (handler : Handler σ) : Prop :=
  ∀ parent request (r : Realm σ), n ≤ r.contexts.size → r.Closed n → r.interrupts = [] →
    Realm.Untouched n r (handler parent request r).2

/-- What one handler answers in a realm, another answers in the one with ballast. -/
def Handler.Matches (b : Ballast) (handler handler' : Handler σ) : Prop :=
  ∀ parent request (r s : Realm σ), Realm.Laden b r s →
    Realm.Matches b (handler parent request r) (handler' (parent.map b.place) request s)

/-- Answers are the same where earlier work left contexts and records behind. -/
def Handler.Oblivious (b : Ballast) (handler : Handler σ) : Prop :=
  Handler.Matches b handler handler

/-- Endpoints for the same methods, of which one answers with ballast what the other answers
without. -/
inductive Endpoint.Matches (b : Ballast) : Endpoint σ → Endpoint σ → Prop
  | read {handler handler' : Handler σ} :
      Handler.Matches b handler handler' → Endpoint.Matches b (.read handler) (.read handler')
  | post {handler handler' : Handler σ} :
      Handler.Matches b handler handler' → Endpoint.Matches b (.post handler) (.post handler')

/-- What answers at an endpoint. -/
def Endpoint.handler : Endpoint σ → Handler σ
  | .read handler | .post handler => handler

/-- A result in two realms may be changed in the same way. -/
theorem Realm.Matches.map {α β : Type u} {x y : Outcome α × Realm σ} (h : Realm.Matches b x y)
    (f : α → β) : Realm.Matches b (x.1.map f, x.2) (y.1.map f, y.2) :=
  ⟨congrArg (Outcome.map f) h.1, h.2⟩

namespace Service

variable {service : Service σ} {r s : Realm σ}

/-- The service with a deadline that is later by the lead of the machine's timer. -/
def ahead (b : Ballast) (service : Service σ) : Service σ :=
  { service with deadline := service.deadline.map (· + b.lead) }

/-! ## The stages of an event -/

section Stages

variable {span : ContextId}

theorem noteIdentity_untouched (hspan : n ≤ span) (name text : String) (r : Realm σ) :
    Realm.Untouched n r (noteIdentity span name text r) := by
  unfold noteIdentity
  split
  · exact .refl r
  · exact (r.setValue_untouched hspan _ _).trans (Realm.setLogValue_untouched _ hspan _ _)

theorem noteIdentity_laden (h : Realm.Laden b r s) (span : ContextId) (name text : String) :
    Realm.Laden b (noteIdentity span name text r) (noteIdentity (b.place span) name text s) := by
  unfold noteIdentity
  split
  · exact h
  · exact (h.setValue _ _ _).setLogValue _ _ _

theorem noteRequest_untouched (hspan : n ≤ span) (settings : Settings) (request : Http.Request)
    (r : Realm σ) : Realm.Untouched n r (noteRequest settings request span r) :=
  (((r.setValue_untouched hspan _ _).trans (Realm.setValue_untouched _ hspan _ _)).trans
    (noteIdentity_untouched hspan _ _ _)).trans (noteIdentity_untouched hspan _ _ _)

theorem noteRequest_laden (h : Realm.Laden b r s) (settings : Settings) (request : Http.Request)
    (span : ContextId) :
    Realm.Laden b (noteRequest settings request span r)
      (noteRequest settings request (b.place span) s) :=
  noteIdentity_laden (noteIdentity_laden ((h.setValue _ _ _).setValue _ _ _) _ _ _) _ _ _

theorem notePayload_untouched (hspan : n ≤ span) (settings : Settings) (payload : ByteArray)
    (r : Realm σ) : Realm.Untouched n r (notePayload settings payload span r) := by
  have hfold : ∀ (fields : List (String × String)) (r : Realm σ), Realm.Untouched n r
      (fields.foldl (fun r field => r.setLogValue span field.1 (.str field.2)) r) := by
    intro fields
    induction fields with
    | nil => exact fun r => .refl r
    | cons field fields ih =>
      exact fun r => (r.setLogValue_untouched hspan _ _).trans (ih _)
  unfold notePayload
  dsimp only
  split
  · exact (hfold _ r).trans (Realm.setValue_untouched _ hspan _ _)
  · exact hfold _ r

theorem notePayload_laden (h : Realm.Laden b r s) (settings : Settings) (payload : ByteArray)
    (span : ContextId) :
    Realm.Laden b (notePayload settings payload span r)
      (notePayload settings payload (b.place span) s) := by
  have hfold : ∀ (fields : List (String × String)) {r s : Realm σ}, Realm.Laden b r s →
      Realm.Laden b (fields.foldl (fun r field => r.setLogValue span field.1 (.str field.2)) r)
        (fields.foldl (fun s field => s.setLogValue (b.place span) field.1 (.str field.2)) s) := by
    intro fields
    induction fields with
    | nil => exact fun h => h
    | cons field fields ih => exact fun h => ih (h.setLogValue _ _ _)
  unfold notePayload
  dsimp only
  split
  · exact (hfold _ h).setValue _ _ _
  · exact hfold _ h

theorem settle_untouched (span : ContextId) (payload : ByteArray) (x : Exchange) (r : Realm σ) :
    Realm.Untouched n r (settle span payload x r) := by
  unfold settle
  split
  · exact r.forget_untouched span payload
  · exact .refl r

theorem settle_laden (h : Realm.Laden b r s) (span : ContextId) (payload : ByteArray)
    (x : Exchange) :
    Realm.Laden b (settle span payload x r) (settle (b.place span) payload x s) := by
  unfold settle
  split
  · exact h.forget span payload
  · exact h

theorem logExchange_untouched (span : ContextId) (x : Exchange) (r : Realm σ) :
    Realm.Untouched n r (logExchange span x r) := by
  unfold logExchange
  split
  · exact r.log_untouched ..
  · split
    · exact .refl r
    · exact r.log_untouched ..

theorem logExchange_laden (h : Realm.Laden b r s) (span : ContextId) (x : Exchange) :
    Realm.Laden b (logExchange span x r) (logExchange (b.place span) x s) := by
  unfold logExchange
  split
  · exact h.log _ _ _ _
  · split
    · exact h
    · exact h.log _ _ _ _

theorem forward_untouched (ht : Transport.Confined service.transport) (request : Http.Request)
    (hspan : n ≤ span) (payload : ByteArray) (hn : n ≤ r.contexts.size) (hr : r.Closed n)
    (hcalm : r.interrupts = []) :
    Realm.Untouched n r (service.forward request span payload r).2 := by
  have hsent : Realm.Untouched n r (service.courier.sendBefore service.deadline _ _ _ _).2 :=
    Courier.sendBefore_untouched ht hspan
      (relayedRequest service.home.settings request (r.context span).id payload) hn hr hcalm
  unfold forward
  dsimp only
  generalize service.courier.sendBefore service.deadline service.transport span _ r = sent
    at hsent ⊢
  obtain ⟨outcome, r'⟩ := sent
  cases outcome with
  | returned x => exact (hsent.trans (settle_untouched ..)).trans (logExchange_untouched ..)
  | panicked panic => exact hsent
  | hung => exact hsent

theorem forward_matches (ht : Transport.Oblivious service.transport) (h : Realm.Laden b r s)
    (request : Http.Request) (span : ContextId) (payload : ByteArray) :
    Realm.Matches b (service.forward request span payload r)
      ((service.ahead b).forward request (b.place span) payload s) := by
  have hsent : Realm.Matches b (service.courier.sendBefore service.deadline _ _ _ _) _ :=
    Courier.sendBefore_matches ht h span
      (relayedRequest service.home.settings request (r.context span).id payload)
  unfold forward ahead
  dsimp only
  rw [h.id_eq]
  generalize service.courier.sendBefore service.deadline service.transport span _ r = sent
    at hsent ⊢
  generalize service.courier.sendBefore _ service.transport (b.place span) _ s = sent' at hsent ⊢
  obtain ⟨outcome, r'⟩ := sent
  obtain ⟨outcome', s'⟩ := sent'
  obtain ⟨rfl, hafter⟩ := hsent
  cases outcome' with
  | returned x => exact ⟨rfl, logExchange_laden (settle_laden hafter span payload x) span x⟩
  | panicked panic => exact ⟨rfl, hafter⟩
  | hung => exact ⟨rfl, hafter⟩

theorem decide_untouched (ht : Transport.Confined service.transport) (request : Http.Request)
    (hspan : n ≤ span) (hn : n ≤ r.contexts.size) (hr : r.Closed n) (hcalm : r.interrupts = []) :
    Realm.Untouched n r (service.decide request span r).2 := by
  unfold decide
  dsimp only
  cases request.readBody (bodyLimit service.home.settings) with
  | error reason => exact r.log_untouched ..
  | ok payload =>
    have hnoted := notePayload_untouched hspan service.home.settings payload r
    dsimp only
    split
    · exact hnoted.trans (Realm.log_untouched ..)
    · have hasked := hnoted.trans (Realm.isDuplicate_untouched _ span payload)
      generalize Realm.isDuplicate (notePayload _ payload span r) _ _ = asked at hasked ⊢
      obtain ⟨hit, r'⟩ := asked
      cases hit with
      | true => exact hasked.trans (Realm.log_untouched ..)
      | false =>
        exact hasked.trans (forward_untouched ht request hspan payload
          (Nat.le_trans hn hasked.size_le) (hasked.closed hr) (hasked.interrupts_eq.trans hcalm))

theorem decide_matches (ht : Transport.Oblivious service.transport) (h : Realm.Laden b r s)
    (request : Http.Request) (span : ContextId) :
    Realm.Matches b (service.decide request span r)
      ((service.ahead b).decide request (b.place span) s) := by
  have hhome : (service.ahead b).home = service.home := rfl
  unfold decide
  rw [hhome]
  dsimp only
  cases request.readBody (bodyLimit service.home.settings) with
  | error reason => exact ⟨rfl, h.log _ _ _ _⟩
  | ok payload =>
    have hnoted := notePayload_laden h service.home.settings payload span
    dsimp only
    split
    · exact ⟨rfl, hnoted.log _ _ _ _⟩
    · have hasked := hnoted.isDuplicate span payload
      generalize Realm.isDuplicate (notePayload _ payload span r) _ _ = asked at hasked ⊢
      generalize Realm.isDuplicate (notePayload _ payload (b.place span) s) _ _ = asked'
        at hasked ⊢
      obtain ⟨hit, r'⟩ := asked
      obtain ⟨hit', s'⟩ := asked'
      obtain ⟨rfl, hafter⟩ := hasked
      cases hit' with
      | true => exact ⟨rfl, hafter.log _ _ _ _⟩
      | false => exact forward_matches ht hafter request span payload

theorem arrive_untouched (service : Service σ) (parent : Option ContextId) (request : Http.Request)
    (hn : n ≤ r.contexts.size) : Realm.Untouched n r (service.arrive parent request r).2 := by
  have hopened := r.openSpan_untouched hn (parent.getD service.home.root) SpanName.httpHandle
    (arrivalAttributes request)
  unfold arrive
  dsimp only
  rw [r.openSpan_fst]
  refine Realm.Untouched.trans ?_ (noteRequest_untouched hn _ _ _)
  cases correlationId? service.home.settings request with
  | none => exact hopened
  | some id => exact hopened.trans (Realm.setId_untouched _ hn id)

theorem arrive_matchesAt (hroot : service.home.root < b.first) (h : Realm.Laden b r s)
    (parent : Option ContextId) (request : Http.Request) :
    Realm.MatchesAt b (service.arrive parent request r)
      (service.arrive (parent.map b.place) request s) := by
  have hparent : (parent.map b.place).getD service.home.root =
      b.place (parent.getD service.home.root) := by
    cases parent with
    | none => exact (b.place_of_lt hroot).symm
    | some c => rfl
  obtain ⟨hspan, hopened⟩ := h.openSpan (parent.getD service.home.root) SpanName.httpHandle
    (arrivalAttributes request)
  unfold arrive
  dsimp only
  rw [hparent, hspan]
  refine ⟨rfl, noteRequest_laden ?_ _ _ _⟩
  cases correlationId? service.home.settings request with
  | none => exact hopened
  | some id => exact hopened.setId _ id

theorem depart_untouched (service : Service σ) (request : Http.Request) (span : ContextId)
    (started : UInt64) (response : Http.Response) (r : Realm σ) :
    Realm.Untouched n r (service.depart request span started response r).2 :=
  (r.measure_untouched ..).trans (Realm.closeSpan_untouched ..)

theorem depart_matches (service : Service σ) (h : Realm.Laden b r s) (request : Http.Request)
    (span : ContextId) (started : UInt64) (response : Http.Response) :
    Realm.Matches b (service.depart request span started response r)
      (service.depart request (b.place span) started response s) := by
  unfold depart
  dsimp only
  rw [h.id_eq, h.observerOf_eq, h.clock_eq]
  exact ⟨rfl, (h.measure _ _ _ _ _).closeSpan _ _ _ _⟩

end Stages

/-! ## The endpoints -/

theorem ingest_confined (ht : Transport.Confined service.transport) :
    Handler.Confined n service.ingest := by
  intro parent request r hn hr hcalm
  have harrived := arrive_untouched service parent request hn
  have hspan : n ≤ (service.arrive parent request r).1 := by
    rw [service.arrive_fst]
    exact hn
  have hdecided := harrived.trans (decide_untouched ht request hspan
    (Nat.le_trans hn harrived.size_le) (harrived.closed hr) (harrived.interrupts_eq.trans hcalm))
  unfold ingest
  dsimp only
  generalize service.decide request _ (service.arrive parent request r).2 = decided
    at hdecided ⊢
  obtain ⟨outcome, r'⟩ := decided
  cases outcome with
  | returned verdict => exact hdecided.trans (depart_untouched ..)
  | panicked panic => exact hdecided
  | hung => exact hdecided

theorem ingest_matches (ht : Transport.Oblivious service.transport)
    (hroot : service.home.root < b.first) :
    Handler.Matches b service.ingest (service.ahead b).ingest := by
  intro parent request r s h
  obtain ⟨hspan, harrived⟩ := arrive_matchesAt hroot h parent request
  have hdecided := decide_matches ht harrived request (service.arrive parent request r).1
  have harrive : (service.ahead b).arrive (parent.map b.place) request s =
    service.arrive (parent.map b.place) request s := rfl
  unfold ingest
  dsimp only
  rw [harrive, hspan, h.clock_eq]
  generalize service.decide request _ (service.arrive parent request r).2 = decided
    at hdecided ⊢
  generalize (service.ahead b).decide request _ (service.arrive (parent.map b.place) request s).2 =
    decided' at hdecided ⊢
  obtain ⟨outcome, r'⟩ := decided
  obtain ⟨outcome', s'⟩ := decided'
  obtain ⟨rfl, hafter⟩ := hdecided
  cases outcome' with
  | returned verdict =>
    obtain ⟨hresponse, hleft⟩ := service.depart_matches hafter request
      (service.arrive parent request r).1 r.clock.elapsed verdict.response
    exact ⟨congrArg Outcome.returned hresponse, hleft⟩
  | panicked panic => exact ⟨rfl, hafter⟩
  | hung => exact ⟨rfl, hafter⟩

theorem health_oblivious (service : Service σ) : Handler.Oblivious b service.health := by
  intro parent request r s h
  unfold health
  rw [h.clock_eq]
  exact ⟨rfl, h⟩

theorem liveness_oblivious (service : Service σ) : Handler.Oblivious b service.liveness := by
  intro parent request r s h
  unfold liveness
  rw [h.clock_eq]
  exact ⟨rfl, h⟩

end Service

/-! ## The routes -/

namespace RouteTable

variable {routes routes' : RouteTable σ}

theorem answer_confined {endpoint : Endpoint σ} (h : Handler.Confined n endpoint.handler) :
    Handler.Confined n (answer endpoint) := by
  intro parent request r hn hr hcalm
  have hdone := h parent request r hn hr hcalm
  cases endpoint with
  | read handler =>
    simp only [answer]
    split
    · exact hdone
    · exact .refl r
  | post handler =>
    simp only [answer]
    split
    · exact hdone
    · exact .refl r

theorem answer_matches {endpoint endpoint' : Endpoint σ}
    (h : Endpoint.Matches b endpoint endpoint') :
    Handler.Matches b (answer endpoint) (answer endpoint') := by
  intro parent request r s hladen
  cases h with
  | read hdone =>
    simp only [answer]
    split
    · exact (hdone parent request r s hladen).map _
    · exact ⟨rfl, hladen⟩
  | post hdone =>
    simp only [answer]
    split
    · exact (hdone parent request r s hladen).map _
    · exact ⟨rfl, hladen⟩

/-- Routes whose endpoints leave the first contexts alone do so. -/
theorem serve_confined (h : ∀ route ∈ routes, Handler.Confined n route.2.handler) :
    Handler.Confined n routes.serve := by
  intro parent request r hn hr hcalm
  unfold serve
  split
  · next endpoint hfound =>
    obtain ⟨before, after, rfl, -⟩ := List.lookup_eq_some_iff.1 hfound
    exact answer_confined (h (request.path, endpoint) (by simp)) parent request r hn hr hcalm
  · exact .refl r

/-- In matching routes a path has matching endpoints. -/
theorem lookup_matches (h : List.Forall₂ (fun route route' => route'.1 = route.1 ∧
      Endpoint.Matches b route.2 route'.2) routes routes') (path : String) :
    Option.Rel (Endpoint.Matches b) (routes.lookup path) (routes'.lookup path) := by
  induction h with
  | nil => exact .none
  | @cons route route' routes routes' hroute _ ih =>
    obtain ⟨name, endpoint⟩ := route
    obtain ⟨name', endpoint'⟩ := route'
    obtain ⟨rfl, hendpoint⟩ := hroute
    dsimp only
    rw [List.lookup_cons, List.lookup_cons]
    cases path == name' with
    | true => exact .some hendpoint
    | false => exact ih

/-- Routes answer the same in spite of what was left behind if their endpoints do. -/
theorem serve_matches (h : List.Forall₂ (fun route route' => route'.1 = route.1 ∧
      Endpoint.Matches b route.2 route'.2) routes routes') :
    Handler.Matches b routes.serve routes'.serve := by
  intro parent request r s hladen
  have hfound := lookup_matches h request.path
  unfold serve
  generalize routes.lookup request.path = endpoint at hfound ⊢
  generalize routes'.lookup request.path = endpoint' at hfound ⊢
  cases hfound with
  | none => exact ⟨rfl, hladen⟩
  | some hendpoint => exact answer_matches hendpoint parent request r s hladen

end RouteTable

/-! ## What stands around the routes -/

namespace Service

variable {service : Service σ} {handler : Handler σ} {timed : Nat → Handler σ} {r s : Realm σ}

theorem routes_confined (service : Service σ) (ht : Transport.Confined service.transport) :
    Handler.Confined n service.routes.serve := by
  apply RouteTable.serve_confined
  simp only [routes, List.forall_mem_cons]
  exact ⟨fun _ _ r _ _ _ => .refl r, fun _ _ r _ _ _ => .refl r, ingest_confined ht, by simp⟩

theorem routes_matches (service : Service σ) (ht : Transport.Oblivious service.transport)
    (hroot : service.home.root < b.first) :
    Handler.Matches b service.routes.serve (service.ahead b).routes.serve := by
  apply RouteTable.serve_matches
  have hhealth := health_oblivious (b := b) service
  have hliveness := liveness_oblivious (b := b) service
  exact .cons ⟨rfl, .read hhealth⟩ (.cons ⟨rfl, .read hliveness⟩
    (.cons ⟨rfl, .post (ingest_matches ht hroot)⟩ .nil))

theorem withTimeLimit_confined (h : ∀ deadline, Handler.Confined n (timed deadline)) :
    Handler.Confined n (withTimeLimit timed) := by
  intro parent request r hn hr hcalm
  have hdone := h (deadlineFrom r) parent request r hn hr hcalm
  unfold withTimeLimit
  dsimp only
  generalize timed (deadlineFrom r) parent request r = done at hdone ⊢
  obtain ⟨outcome, r'⟩ := done
  cases outcome with
  | returned response => exact hdone
  | panicked panic => exact hdone
  | hung => exact hdone.trans (.of_eq rfl rfl rfl)

/-- The time for a request that comes in later is over later. -/
theorem deadlineFrom_laden (h : Realm.Laden b r s) :
    deadlineFrom s = deadlineFrom r + b.lead := by
  unfold deadlineFrom
  rw [h.millis_eq]
  omega

theorem withTimeLimit_oblivious
    (h : ∀ deadline, Handler.Matches b (timed deadline) (timed (deadline + b.lead))) :
    Handler.Oblivious b (withTimeLimit timed) := by
  intro parent request r s hladen
  have hdone := h (deadlineFrom r) parent request r s hladen
  unfold withTimeLimit
  dsimp only
  rw [deadlineFrom_laden hladen]
  generalize timed (deadlineFrom r) parent request r = done at hdone ⊢
  generalize timed _ (parent.map b.place) request s = done' at hdone ⊢
  obtain ⟨outcome, r'⟩ := done
  obtain ⟨outcome', s'⟩ := done'
  obtain ⟨rfl, hafter⟩ := hdone
  cases outcome' with
  | returned response => exact ⟨rfl, hafter⟩
  | panicked panic => exact ⟨rfl, hafter⟩
  | hung => exact ⟨rfl, { hafter with millis_eq := rfl }⟩

theorem openRequest_untouched (service : Service σ) (request : Http.Request)
    (hn : n ≤ r.contexts.size) : Realm.Untouched n r (service.openRequest request r).2 := by
  have hborn := r.derive_untouched hn service.home.root
  unfold openRequest Instance.requestContext
  dsimp only
  rw [r.derive_fst]
  refine Realm.Untouched.trans ?_ (Realm.setLogValue_untouched _ hn _ _)
  cases correlationId? service.home.settings request with
  | none => exact hborn
  | some id => exact hborn.trans (Realm.setId_untouched _ hn id)

theorem openRequest_matchesAt (hroot : service.home.root < b.first) (h : Realm.Laden b r s)
    (request : Http.Request) :
    Realm.MatchesAt b (service.openRequest request r) (service.openRequest request s) := by
  obtain ⟨hfst, hborn⟩ := h.derive service.home.root
  rw [b.place_of_lt hroot] at hfst hborn
  unfold openRequest Instance.requestContext
  dsimp only
  rw [hfst]
  refine ⟨rfl, Realm.Laden.setLogValue ?_ _ _ _⟩
  cases correlationId? service.home.settings request with
  | none => exact hborn
  | some id => exact hborn.setId _ id

theorem containingPanics_confined (service : Service σ) (h : Handler.Confined n handler) :
    Handler.Confined n (service.containingPanics handler) := by
  intro _ request r hn hr hcalm
  have hopened := openRequest_untouched service request hn
  have hcaught := hopened.trans (Realm.contain_untouched (service.openRequest request r).1
    (h (some (service.openRequest request r).1) request (service.openRequest request r).2.enter
      (Nat.le_trans hn hopened.size_le) (hopened.closed hr)
      (hopened.interrupts_eq.trans hcalm)))
  unfold containingPanics
  dsimp only
  generalize Realm.contain _ _ _ = caught at hcaught ⊢
  obtain ⟨outcome, r'⟩ := caught
  match outcome with
  | .returned (some response) => exact hcaught
  | .returned none => exact hcaught
  | .panicked payload => exact hcaught
  | .hung => exact hcaught

theorem containingPanics_oblivious (hroot : service.home.root < b.first)
    (h : Handler.Oblivious b handler) : Handler.Oblivious b (service.containingPanics handler) := by
  intro _ request r s hladen
  obtain ⟨hfst, hopened⟩ := openRequest_matchesAt hroot hladen request
  have hcaught := Realm.Laden.contain (service.openRequest request r).1
    (h (some (service.openRequest request r).1) request _ _ hopened.enter)
  unfold containingPanics
  dsimp only
  rw [hfst]
  simp only [Option.map_some] at hcaught
  generalize Realm.contain (service.openRequest request r).2 _ _ = caught at hcaught ⊢
  generalize Realm.contain (service.openRequest request s).2 _ _ = caught' at hcaught ⊢
  obtain ⟨outcome, r'⟩ := caught
  obtain ⟨outcome', s'⟩ := caught'
  obtain ⟨rfl, hafter⟩ := hcaught
  match outcome' with
  | .returned (some response) => exact ⟨rfl, hafter⟩
  | .returned none =>
    refine ⟨?_, hafter⟩
    dsimp only
    rw [hafter.id_eq]
  | .panicked payload => exact ⟨rfl, hafter⟩
  | .hung => exact ⟨rfl, hafter⟩

/-- **Seclusion.** On every route, whatever comes of a request, no context is touched that was there
before it. -/
theorem serve_confined (ht : Transport.Confined service.transport) :
    Handler.Confined n service.serve :=
  containingPanics_confined service (withTimeLimit_confined fun deadline =>
    (service.before deadline).routes_confined ht)

/-- **Oblivion.** On every route a request is answered the same in spite of what earlier ones left
behind. -/
theorem serve_oblivious (ht : Transport.Oblivious service.transport)
    (hroot : service.home.root < b.first) : Handler.Oblivious b service.serve :=
  containingPanics_oblivious hroot (withTimeLimit_oblivious fun deadline =>
    (service.before deadline).routes_matches ht hroot)

end Service
end EventRelay
