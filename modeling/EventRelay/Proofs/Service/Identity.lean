import EventRelay.Proofs.Realm.Correlation
import EventRelay.Proofs.Realm.Outline
import EventRelay.Proofs.Service.Undelivered

/-!
# The correlation id of a request

Each request is known by one id: the one that it brings along, or else that of the root, or else a
fresh one. Its context is given that id, and so is the span under which an event is taken in.

* `Service.correlationOf`: the id of a request.
* `noteRequest_outline`, `notePayload_outline`: what is recorded of a request decides nothing.
* `id_openRequest`, `id_arrive`: the ids of its context and of its span.
* `served_eq`: where an event is decided, the service has only made contexts and kept records.
-/

namespace EventRelay
namespace Service

variable {σ : Type} {service : Service σ} {request : Http.Request}

/-- The correlation id of a request. -/
def correlationOf (service : Service σ) (request : Http.Request) (r : Realm σ) : String :=
  (correlationId? service.home.settings request).getD (r.issuedId service.home.root)

theorem correlationId?_ne_empty {settings : Settings} {id : String}
    (h : correlationId? settings request = some id) : id ≠ "" := by
  obtain ⟨-, hne⟩ := Option.filter_eq_some_iff.1 h
  simpa using hne

/-- An empty header brings no id along. -/
example : correlationId? Settings.zero
    ⟨"POST", eventsRoute, "", .ofTexts [("x-b3-traceid", "")], .empty, none⟩ = none := by
  decide +kernel

theorem correlationOf_ne_empty (service : Service σ) (request : Http.Request) (r : Realm σ) :
    service.correlationOf request r ≠ "" := by
  unfold correlationOf
  cases h : correlationId? service.home.settings request with
  | none => exact r.issuedId_ne_empty service.home.root
  | some id => exact correlationId?_ne_empty h

/-! ## What is recorded decides nothing -/

section Outlines

variable {τ : Type} (view : σ → τ)

@[simp] theorem noteIdentity_outline (span : ContextId) (name text : String) (r : Realm σ) :
    (noteIdentity span name text r).outline view = r.outline view := by
  unfold noteIdentity
  split <;> simp

@[simp] theorem noteRequest_outline (settings : Settings) (request : Http.Request)
    (span : ContextId) (r : Realm σ) :
    (noteRequest settings request span r).outline view = r.outline view := by
  simp [noteRequest]

@[simp] theorem notePayload_outline (settings : Settings) (payload : ByteArray)
    (span : ContextId) (r : Realm σ) :
    (notePayload settings payload span r).outline view = r.outline view := by
  have hfold : ∀ (fields : List (String × String)) (s : Realm σ),
      (fields.foldl (fun s field => s.setLogValue span field.1 (.str field.2)) s).outline view =
        s.outline view := by
    intro fields
    induction fields with
    | nil => exact fun s => rfl
    | cons field fields ih =>
      intro s
      rw [List.foldl_cons, ih, Realm.setLogValue_outline]
  unfold notePayload
  dsimp only
  split
  · rw [Realm.setValue_outline, hfold]
  · rw [hfold]

@[simp] theorem logExchange_outline (span : ContextId) (exchange : Exchange) (r : Realm σ) :
    (logExchange span exchange r).outline view = r.outline view := by
  unfold logExchange
  split
  · simp
  · split <;> simp

end Outlines

/-! ## The ids of context and span -/

/-- The context of a request has its id. -/
theorem id_openRequest (service : Service σ) (request : Http.Request) (r : Realm σ) :
    ((service.openRequest request r).2.context r.contexts.size).id =
      service.correlationOf request r := by
  have hlt : r.contexts.size < (r.derive service.home.root).2.contexts.size := by
    rw [r.size_derive]
    exact Nat.lt_succ_self _
  unfold openRequest correlationOf Instance.requestContext
  dsimp only
  rw [r.derive_fst, Realm.Alike.id_eq (Realm.setLogValue_outline id _ _ _ _)]
  cases correlationId? service.home.settings request with
  | none => exact r.id_derive service.home.root
  | some id =>
    dsimp only
    rw [Realm.setId, Realm.context_update_self _ hlt]
    rfl

/-- The span of an event has the id that the request brings along, or else that of the context in
which it is taken in. -/
theorem id_arrive (service : Service σ) (parent : Option ContextId) (request : Http.Request)
    (r : Realm σ) :
    ((service.arrive parent request r).2.context r.contexts.size).id =
      (correlationId? service.home.settings request).getD
        (r.issuedId (parent.getD service.home.root)) := by
  obtain ⟨hlt, -⟩ := r.context_openSpan (parent.getD service.home.root) SpanName.httpHandle
    (arrivalAttributes request)
  unfold arrive
  dsimp only
  rw [r.openSpan_fst, Realm.Alike.id_eq (noteRequest_outline id _ _ _ _)]
  cases correlationId? service.home.settings request with
  | none => exact (r.openSpan_named _ _ _).1
  | some id =>
    dsimp only
    rw [Realm.setId, Realm.context_update_self _ hlt]
    rfl

/-- The span of an event that the service takes in has the id of the request. -/
theorem id_arrive_entered (service : Service σ) (request : Http.Request) (r : Realm σ) :
    ((service.arrive (some r.contexts.size) request
        (service.openRequest request r).2.enter).2.context
      (service.openRequest request r).2.contexts.size).id = service.correlationOf request r := by
  have hid : ((service.openRequest request r).2.enter.context r.contexts.size).id =
      service.correlationOf request r := service.id_openRequest request r
  have hcontexts : (service.openRequest request r).2.enter.contexts =
      (service.openRequest request r).2.contexts := rfl
  have harrive := service.id_arrive (some r.contexts.size) request
    (service.openRequest request r).2.enter
  rw [hcontexts] at harrive
  refine harrive.trans ?_
  rw [Option.getD_some, Realm.issuedId, hid, if_neg]
  · unfold correlationOf
    cases correlationId? service.home.settings request <;> rfl
  · simpa using service.correlationOf_ne_empty request r

/-- An event is decided in a span with the handles of the root and with the id of the request, and
until then nothing happens but that contexts are made and written to and records kept. -/
theorem served_eq (service : Service σ) (request : Http.Request) (r : Realm σ) :
    ∃ span s, service.served ⟨none, request, r⟩ =
        (service.before (deadlineFrom r)).decide request span s ∧
      span < s.contexts.size ∧ Realm.Quiet r s ∧
      (s.context span).handles = (r.context service.home.root).handles ∧
      (s.context span).id = service.correlationOf request r := by
  obtain ⟨opened, hopened⟩ : ∃ s, s = (service.openRequest request r).2.enter := ⟨_, rfl⟩
  have harrive := service.arrive_quiet (some r.contexts.size) request opened
  refine ⟨opened.contexts.size, (service.arrive (some r.contexts.size) request opened).2, ?_,
    (service.hasChecker_arrive (some r.contexts.size) request opened).1, ?_, ?_, ?_⟩
  · have hspan := (service.before (deadlineFrom r)).arrive_fst (some r.contexts.size) request opened
    unfold served judged judge entered during
    dsimp only
    rw [← hopened, service.openRequest_fst, hspan]
    rfl
  · refine Realm.Quiet.trans ?_ harrive
    rw [hopened]
    exact (service.openRequest_quiet request r).trans (Realm.enter_quiet _)
  · rw [service.handles_arrive, ← service.handles_openRequest request r, hopened]
    rfl
  · rw [hopened]
    exact service.id_arrive_entered request r

end Service
end EventRelay
