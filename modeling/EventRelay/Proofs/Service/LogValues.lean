import EventRelay.Proofs.Service.Undelivered
import EventRelay.Proofs.Tables

/-!
# What is noted of an event

The log values of the span of an event are those of the root, and what is noted over them: the path
of the request, the tenant and the partner, and what the settings find in the payload. What is noted
later counts, and the order in which the settings list their fields makes no difference.

* `Service.fieldOf?`: the text that settings find in a payload under a name.
* `logValue?_openRequest`, `logValue?_arrive`, `logValue?_notePayload`: what the three steps note.
* `Service.relisted`: the same service with the fields listed in another way. `serve_relisted`: it
  does the same.
-/

namespace EventRelay

/-- Of two writes to one context it is enough to make the second one after the first. -/
theorem Realm.update_update {σ : Type} (r : Realm σ) (c : ContextId) (f g : Context → Context) :
    (r.update c f).update c g = r.update c fun x => g (f x) := by
  have h : (r.contexts.modify c f).modify c g = r.contexts.modify c fun x => g (f x) := by
    refine Array.ext (by simp) fun i hi hi' => ?_
    simp only [Array.getElem_modify]
    split <;> rfl
  unfold update
  rw [h]

/-- Log values of different names can be written in any order. -/
theorem Realm.setLogValue_comm {σ : Type} (r : Realm σ) (c : ContextId) {name other : String}
    (hne : name ≠ other) (value value' : Json) :
    (r.setLogValue c name value).setLogValue c other value' =
      (r.setLogValue c other value').setLogValue c name value := by
  have hwrites : ∀ x : Context, (x.setLogValue name value).setLogValue other value' =
      (x.setLogValue other value').setLogValue name value := by
    intro x
    unfold Context.setLogValue
    rw [Entries.insert_insert_of_ne hne]
  unfold setLogValue
  rw [update_update, update_update]
  exact congrArg (r.update c) (funext hwrites)

namespace Service

variable {σ : Type}

/-! ## What is noted among the log values -/

/-- The text that settings find in a payload under the name of a log value. -/
def fieldOf? (settings : Settings) (payload : ByteArray) (name : String) : Option String :=
  (Entries.find? name settings.logParams).bind fun path =>
    (documentOf payload).bind fun document => (document.lookup path).map Json.flatText

variable {settings : Settings} {payload : ByteArray} {request : Http.Request} {r : Realm σ}
  {span : ContextId} {name : String}

theorem logFieldsOf_names (h : (settings.logParams.map Prod.fst).Nodup) (payload : ByteArray) :
    ((logFieldsOf settings payload).map Prod.fst).Nodup := by
  unfold logFieldsOf
  split
  · next document _ =>
    have hnodup := Entries.nodup_names_filterMap
      (f := fun path => (document.lookup path).map Json.flatText) h
    simp only [Option.map_map] at hnodup
    exact hnodup
  · exact List.nodup_nil

theorem find?_logFieldsOf (h : (settings.logParams.map Prod.fst).Nodup) (payload : ByteArray)
    (name : String) :
    Entries.find? name (logFieldsOf settings payload) = fieldOf? settings payload name := by
  unfold logFieldsOf fieldOf?
  cases documentOf payload with
  | none => cases Entries.find? name settings.logParams <;> rfl
  | some document =>
    have hfound := Entries.find?_filterMap
      (f := fun path => (document.lookup path).map Json.flatText) h name
    simp only [Option.map_map] at hfound
    exact hfound

/-- What the log values of a context are after some were written one after the other. -/
theorem logValues_foldl (hspan : span < r.contexts.size) (fields : List (String × String)) :
    ((fields.foldl (fun r field => r.setLogValue span field.1 (.str field.2)) r).context
        span).logValues =
      (r.context span).logValues.overlay (Entries.mapValues .str fields) := by
  induction fields generalizing r with
  | nil => rfl
  | cons field fields ih =>
    have hlt := Nat.lt_of_lt_of_le hspan
      (r.setLogValue_quiet span field.1 (.str field.2)).size_le
    rw [List.foldl_cons, ih hlt, Realm.setLogValue, r.context_update_self hspan]
    rfl

/-- What a payload is found to hold stands over what was noted before. -/
theorem logValue?_notePayload (h : (settings.logParams.map Prod.fst).Nodup)
    (hspan : span < r.contexts.size) (name : String) :
    ((notePayload settings payload span r).context span).logValue? name =
      ((fieldOf? settings payload name).map .str).or ((r.context span).logValue? name) := by
  have hfields := logValues_foldl hspan (logFieldsOf settings payload)
  have hlt : span < ((logFieldsOf settings payload).foldl
      (fun r field => r.setLogValue span field.1 (.str field.2)) r).contexts.size :=
    Nat.lt_of_lt_of_le hspan (noteFields_calm span _ r).toQuiet.size_le
  have hnodup : ((Entries.mapValues Json.str (logFieldsOf settings payload)).map (·.1)).Nodup := by
    rw [Entries.mapValues, List.map_map]
    exact logFieldsOf_names h payload
  have hfound : Entries.find? name ((r.context span).logValues.overlay
      (Entries.mapValues .str (logFieldsOf settings payload))) =
      ((fieldOf? settings payload name).map .str).or ((r.context span).logValue? name) := by
    rw [Entries.find?_overlay hnodup, Entries.find?_mapValues, find?_logFieldsOf h]
    rfl
  unfold notePayload Context.logValue?
  dsimp only
  split
  · rw [Realm.setValue, Realm.context_update_self _ hlt]
    exact (congrArg (Entries.find? name) hfields).trans hfound
  · rw [hfields]
    exact hfound

theorem logValue?_noteIdentity (hspan : span < r.contexts.size) (key text name : String) :
    ((noteIdentity span key text r).context span).logValue? name =
      if text ≠ "" ∧ name = key then some (.str text) else (r.context span).logValue? name := by
  unfold noteIdentity
  by_cases htext : text = ""
  · subst htext
    rfl
  · have hlt := Nat.lt_of_lt_of_le hspan (r.setValue_quiet span key (.str text)).size_le
    rw [if_neg (by simpa using htext), Realm.setLogValue, Realm.context_update_self _ hlt,
      Realm.setValue, Realm.context_update_self _ hspan]
    refine (Entries.find?_insert ..).trans ?_
    simp only [ne_eq, htext, not_false_eq_true, true_and]
    rfl

/-- What a request is known by stands over what the span was given. -/
theorem logValue?_noteRequest (hspan : span < r.contexts.size) (name : String) :
    ((noteRequest settings request span r).context span).logValue? name =
      if (tenantOf settings request).partnerId ≠ "" ∧ name = Key.partnerId then
        some (.str (tenantOf settings request).partnerId)
      else if (tenantOf settings request).appId ≠ "" ∧ name = Key.tenantId then
        some (.str (tenantOf settings request).appId)
      else (r.context span).logValue? name := by
  unfold noteRequest
  dsimp only
  have hheader := (r.setValue_quiet span Key.header
    (.obj (request.headers.readable.mapValues .str))).size_le
  have hlt := Nat.lt_of_lt_of_le (Nat.lt_of_lt_of_le hspan hheader) (Realm.setValue_quiet _ span
    Key.query (.obj ((Http.Query.parse request.query).mapValues .str))).size_le
  rw [logValue?_noteIdentity (Nat.lt_of_lt_of_le hlt (noteIdentity_calm ..).toQuiet.size_le),
    logValue?_noteIdentity hlt]
  have hvalues : ((Realm.setValue (r.setValue span Key.header
      (.obj (request.headers.readable.mapValues .str))) span Key.query
      (.obj ((Http.Query.parse request.query).mapValues .str))).context span).logValue? name =
      (r.context span).logValue? name := by
    rw [Realm.setValue, Realm.context_update_self _ (Nat.lt_of_lt_of_le hspan hheader),
      Realm.setValue, r.context_update_self hspan]
    rfl
  rw [hvalues]

/-- An id that is set is only written under its own name. -/
theorem logValue?_setId (id : String) (hspan : span < r.contexts.size)
    (hname : name ≠ Key.traceId) :
    ((r.setId span id).context span).logValue? name = (r.context span).logValue? name := by
  rw [Realm.setId, r.context_update_self hspan]
  exact Entries.find?_insert_of_ne hname _ _

theorem logValue?_derived (parent : ContextId) (fresh : String) (x : Context)
    (hname : name ≠ Key.traceId) : (x.derived parent fresh).logValue? name = x.logValue? name :=
  Entries.find?_insert_of_ne hname _ _

variable (service : Service σ)

/-- The span of an event is given the log values of the context of its request. -/
theorem logValue?_arrive (parent : Option ContextId) (request : Http.Request) (r : Realm σ)
    (hname : name ≠ Key.traceId) :
    ((service.arrive parent request r).2.context r.contexts.size).logValue? name =
      if (tenantOf service.home.settings request).partnerId ≠ "" ∧ name = Key.partnerId then
        some (.str (tenantOf service.home.settings request).partnerId)
      else if (tenantOf service.home.settings request).appId ≠ "" ∧ name = Key.tenantId then
        some (.str (tenantOf service.home.settings request).appId)
      else (r.context (parent.getD service.home.root)).logValue? name := by
  obtain ⟨hlt, fresh, values, hborn⟩ := r.context_openSpan (parent.getD service.home.root)
    SpanName.httpHandle (arrivalAttributes request)
  have hgiven : ((r.openSpan (parent.getD service.home.root) SpanName.httpHandle
      (arrivalAttributes request)).2.context r.contexts.size).logValue? name =
      (r.context (parent.getD service.home.root)).logValue? name := by
    rw [hborn]
    exact logValue?_derived (parent.getD service.home.root) fresh _ hname
  unfold arrive
  dsimp only
  rw [r.openSpan_fst]
  cases correlationId? service.home.settings request with
  | none => rw [logValue?_noteRequest hlt, hgiven]
  | some id =>
    rw [logValue?_noteRequest (Nat.lt_of_lt_of_le hlt (Realm.setId_quiet ..).size_le),
      logValue?_setId id hlt hname, hgiven]

/-- The context of a request is given the log values of the root, and the path of the request. -/
theorem logValue?_openRequest (request : Http.Request) (r : Realm σ)
    (hname : name ≠ Key.traceId) :
    ((service.openRequest request r).2.context r.contexts.size).logValue? name =
      if name = Key.route then some (.str request.path)
      else (r.context service.home.root).logValue? name := by
  obtain ⟨fresh, hborn⟩ := r.context_derive service.home.root
  have hlt : r.contexts.size < (r.derive service.home.root).2.contexts.size := by
    rw [r.size_derive]
    exact Nat.lt_succ_self _
  have hgiven : ((r.derive service.home.root).2.context r.contexts.size).logValue? name =
      (r.context service.home.root).logValue? name := by
    rw [hborn]
    exact logValue?_derived service.home.root fresh _ hname
  unfold openRequest Instance.requestContext
  dsimp only
  rw [r.derive_fst, ← hgiven]
  cases correlationId? service.home.settings request with
  | none =>
    rw [Realm.setLogValue, Realm.context_update_self _ hlt]
    exact Entries.find?_insert ..
  | some id =>
    rw [Realm.setLogValue, Realm.context_update_self _
      (Nat.lt_of_lt_of_le hlt (Realm.setId_quiet ..).size_le), ← logValue?_setId id hlt hname]
    exact Entries.find?_insert ..

/-! ## The order of the fields -/

/-- Fields of different names can be noted in any order. -/
theorem noteFields_perm {fields fields' : List (String × String)} (hperm : fields.Perm fields')
    (h : (fields.map Prod.fst).Nodup) (span : ContextId) (r : Realm σ) :
    fields.foldl (fun r field => r.setLogValue span field.1 (.str field.2)) r =
      fields'.foldl (fun r field => r.setLogValue span field.1 (.str field.2)) r := by
  refine hperm.foldl_eq' (fun x hx y hy s => ?_) r
  by_cases hxy : x = y
  · rw [hxy]
  · have hne : x.1 ≠ y.1 := fun heq => hxy (List.inj_on_of_nodup_map h hx hy heq)
    exact s.setLogValue_comm span hne _ _

/-- The service with the fields that it finds in a payload listed in another way. -/
def relisted (service : Service σ) (other : Entries String) : Service σ :=
  { service with home := { service.home with
      settings := { service.home.settings with logParams := other } } }

theorem notePayload_relisted {other : Entries String}
    (hperm : service.home.settings.logParams.Perm other)
    (h : (service.home.settings.logParams.map Prod.fst).Nodup) (payload : ByteArray)
    (span : ContextId) (r : Realm σ) :
    notePayload (service.relisted other).home.settings payload span r =
      notePayload service.home.settings payload span r := by
  have hfields : (logFieldsOf service.home.settings payload).Perm
      (logFieldsOf (service.relisted other).home.settings payload) := by
    unfold logFieldsOf
    cases documentOf payload with
    | none => exact .refl _
    | some document => exact hperm.filterMap _
  have hnoted := noteFields_perm hfields (logFieldsOf_names h payload) span r
  unfold notePayload
  dsimp only
  rw [← hnoted]
  rfl

theorem routes_relisted {other : Entries String}
    (hperm : service.home.settings.logParams.Perm other)
    (h : (service.home.settings.logParams.map Prod.fst).Nodup) :
    (service.relisted other).routes = service.routes := by
  have hdecide : (service.relisted other).decide = service.decide := by
    funext request span r
    unfold decide
    dsimp only
    simp only [notePayload_relisted service hperm h]
    rfl
  have hingest : (service.relisted other).ingest = service.ingest := by
    unfold ingest
    rw [hdecide]
    rfl
  unfold routes
  rw [hingest]
  rfl

/-- **Order.** The order in which the settings list the fields makes no difference. -/
theorem serve_relisted {other : Entries String}
    (hperm : service.home.settings.logParams.Perm other)
    (h : (service.home.settings.logParams.map Prod.fst).Nodup) :
    (service.relisted other).serve = service.serve := by
  have hroutes : ∀ deadline, ((service.relisted other).before deadline).routes =
      (service.before deadline).routes :=
    fun deadline => (service.before deadline).routes_relisted hperm h
  unfold serve
  simp only [hroutes]
  rfl

end Service
end EventRelay
