import EventRelay.Proofs.Realm.Correlation
import EventRelay.Proofs.Tables
import Mathlib.Tactic.IntervalCases

/-!
# The time that a span takes

The context of a traced span holds when the span started and what it is called, over what it was
given of those who started before it. As long as nobody writes over the two there, the record that
ends the span tells its own name and its own time, whatever else is started and ended in between and
however the clocks move.

* `Realm.Unfolds`: a run of operations between which the clocks move to any reading.
* `Realm.Stamped`: a context holds a name and a start. `stamped_openSpan`: the context of a traced
  span does from its birth on; `Stamped.act`: an operation changes it only by writing over it.
* `Realm.farewell`: the record that ends a traced span. `journal_closeSpan`: it is left if the
  context logs.
* `Stamped.farewell_tells`: what it shows of a context that holds a name and a start.
* `span_timed`: every span of a run.
-/

namespace EventRelay

theorem Json.natural?_ofNat {n : Nat} (h : n < UInt64.size) :
    (Json.ofNat n).natural? = some n := by
  rw [Json.ofNat, Json.natural?_ofUInt64, Nat.min_eq_left (Nat.le_sub_one_of_lt h),
    UInt64.toNat_ofNat_of_lt' h]

/-- An operation writes over what a context holds of its span. -/
def Operation.Restamps (c : ContextId) (op : Operation) : Prop :=
  ∃ name value, op = .setValue c name value ∧ (name = Key.startTime ∨ name = Key.spanName)

namespace Realm

variable {σ : Type}

/-- The operations are done one after another, and between two of them the clocks move to any
reading. -/
def Unfolds (ops : Nat → Operation) (course : Nat → Realm σ) : Prop :=
  ∀ n, ∃ clock wall, course (n + 1) =
    { (ops n).act (course n) with clock := clock, systemWall := wall }

theorem unfolds_after (ops : Nat → Operation) (r : Realm σ) : Unfolds ops (r.after ops) :=
  fun _ => ⟨_, _, rfl⟩

/-! ## What the context of a span holds -/

/-- A context that there is holds the name and the start of a span. -/
structure Stamped (r : Realm σ) (c : ContextId) (name : String) (started : UInt64) : Prop where
  lt_size : c < r.contexts.size
  startTime : r.read? c (.value Key.startTime) = some (.json (.ofUInt64 started))
  spanName : r.read? c (.value Key.spanName) = some (.json (.str name))

variable {r : Realm σ} {c : ContextId} {name : String} {started : UInt64}

/-- **Start.** The context of a traced span holds its name and the moment at which it was started,
whatever the context that it was started in holds. -/
theorem stamped_openSpan {parent : ContextId} {time : TimeSource}
    (htraced : r.observerOf parent = .tracing time) (name : String) (attributes : Attributes) :
    (r.openSpan parent name attributes).2.Stamped (r.openSpan parent name attributes).1 name
      (r.wallTime time) := by
  have hborn := fun slot => read?_act_size (.openSpan parent name attributes) r rfl slot
  rw [openSpan_fst]
  refine ⟨?_, (hborn _).trans ?_, (hborn _).trans ?_⟩
  · rw [size_openSpan]
    exact Nat.lt_succ_self _
  · simp only [Operation.atBirth?, htraced, if_true]
  · have hkeys : Slot.value Key.spanName ≠ .value Key.startTime := by decide
    simp only [Operation.atBirth?, htraced, if_neg hkeys, if_true]

namespace Stamped

/-- **One operation.** Whatever is done, a context keeps what it holds of its span unless it is
written over there. -/
theorem act {op : Operation} (h : r.Stamped c name started) (hop : ¬ op.Restamps c) :
    (op.act r).Stamped c name started := by
  have hquiet : ∀ key, key = Key.startTime ∨ key = Key.spanName →
      op.writes? c (.value key) = none := by
    intro key hkey
    cases op with
    | setValue d other value =>
      refine if_neg ?_
      rintro ⟨rfl, hslot⟩
      cases hslot
      exact hop ⟨_, _, rfl, hkey⟩
    | _ => simp [Operation.writes?]
  refine ⟨?_, ?_, ?_⟩
  · rw [size_act]
    exact Nat.lt_add_right _ h.lt_size
  · rw [read?_act op r h.lt_size, hquiet _ (.inl rfl)]
    exact h.startTime
  · rw [read?_act op r h.lt_size, hquiet _ (.inr rfl)]
    exact h.spanName

/-- **A run.** A context that holds the name and the start of its span once holds them until it is
written over there. -/
theorem unfolds {ops : Nat → Operation} {course : Nat → Realm σ} (hrun : Unfolds ops course)
    {j n : Nat} (hjn : j ≤ n) (h : (course j).Stamped c name started)
    (hkept : ∀ i, j ≤ i → i < n → ¬ (ops i).Restamps c) : (course n).Stamped c name started := by
  induction n, hjn using Nat.le_induction with
  | base => exact h
  | succ n hjn ih =>
    have hbefore := ih fun i hji hin => hkept i hji (Nat.lt_succ_of_lt hin)
    have hdone := hbefore.act (hkept n hjn (Nat.lt_succ_self n))
    obtain ⟨clock, wall, hnext⟩ := hrun n
    rw [hnext]
    exact ⟨hdone.lt_size, hdone.startTime, hdone.spanName⟩

end Stamped

/-! ## The record that ends a span -/

/-- The record that ends a traced span, with an error or without. -/
def farewell (r : Realm σ) (time : TimeSource) (span : ContextId) (attributes : Attributes)
    (error : Option String) : LogRecord :=
  let fields := r.spanFields time span (textFields attributes)
  let logValues := (r.context span).logValues
  match error with
  | some text =>
    ⟨.warn, "span ended with error", logValues.overlay (fields.insert "error" (.str text))⟩
  | none => ⟨.debug, "span ended", logValues.overlay fields⟩

/-- The end of a traced span leaves its record, if the context of the span logs, and no other. -/
theorem journal_closeSpan (r : Realm σ) (time : TimeSource) (span : ContextId)
    (attributes : Attributes) (error : Option String) :
    (r.closeSpan (.tracing time) span attributes error).journal =
      if (r.context span).logging then
        r.journal.push ((r.context span).sink, r.farewell time span attributes error)
      else r.journal := by
  have hfields : ∀ call, (r.told call).spanFields time span (textFields attributes) =
      r.spanFields time span (textFields attributes) := by
    intro call
    cases time <;> rfl
  cases error with
  | none =>
    simp only [closeSpan, hfields, journal_emit]
    rfl
  | some text =>
    simp only [closeSpan, hfields, journal_emit]
    rfl

namespace Stamped

/-- The end of a span shows its name and the whole milliseconds since its start. -/
theorem spanFields_eq (h : r.Stamped c name started) (time : TimeSource) (fields : Entries Json) :
    r.spanFields time c fields = (fields.insert "span" (.str name)).insert "duration_ms"
      (.ofNat (((r.wallTime time).toNat - started.toNat) / 1000000)) := by
  have hvalue : ∀ {key value}, r.read? c (.value key) = some (.json value) →
      (r.context c).value? key = some value := fun hread => by
    obtain ⟨v, hv, heq⟩ := Option.map_eq_some_iff.1 hread
    cases heq
    exact hv
  simp only [spanFields, hvalue h.startTime, hvalue h.spanName, Option.bind_some,
    Json.natural?_ofUInt64]

/-- **End.** The record that ends a span tells the name and the time of that span, and the error if
there is one, whatever the attributes and the log values are. -/
theorem farewell_tells (h : r.Stamped c name started) (time : TimeSource) (attributes : Attributes)
    (error : Option String) :
    Entries.find? "span" (r.farewell time c attributes error).fields = some (.str name) ∧
      (Entries.find? "duration_ms" (r.farewell time c attributes error).fields).bind
        Json.natural? = some (((r.wallTime time).toNat - started.toNat) / 1000000) ∧
      match error with
      | some text =>
        (r.farewell time c attributes error).level = .warn ∧
          Entries.find? "error" (r.farewell time c attributes error).fields = some (.str text)
      | none => (r.farewell time c attributes error).level = .debug := by
  obtain ⟨millis, hmillis⟩ :
      ∃ n, n = ((r.wallTime time).toNat - started.toNat) / 1000000 := ⟨_, rfl⟩
  have hlt : millis < UInt64.size := by
    have hword := (r.wallTime time).toNat_lt
    rw [UInt64.size]
    omega
  have hfields := h.spanFields_eq time (textFields attributes)
  rw [← hmillis] at hfields ⊢
  have hsorted : (((textFields attributes).insert "span" (.str name)).insert "duration_ms"
      (.ofNat millis)).Sorted :=
    Entries.sorted_insert (Entries.sorted_insert (sorted_textFields attributes))
  -- What the end has to say is laid over the log values.
  cases error with
  | none =>
    simp only [Realm.farewell, hfields, Entries.find?_overlay hsorted.nodup_names]
    refine ⟨?_, ?_, trivial⟩
    · simp [Entries.find?_insert]
    · simp [Json.natural?_ofNat hlt]
  | some text =>
    have hwhole : Entries.Sorted (Entries.insert "error" (Json.str text) _) :=
      Entries.sorted_insert hsorted
    simp only [Realm.farewell, hfields, Entries.find?_overlay hwhole.nodup_names]
    refine ⟨?_, ?_, trivial, ?_⟩
    · simp [Entries.find?_insert]
    · simp [Entries.find?_insert, Json.natural?_ofNat hlt]
    · simp

end Stamped

/-! ## Runs -/

/-- **Nested spans.** Let a traced span be started at some moment of a run, in any context, and be
ended at a later one, and let nobody write over its start or its name in its context between the
two. The end leaves one record if the context logs, which tells the span's own name and the whole
milliseconds between its own start and its end by the clock that was read at both, none if the clock
went back. It is a warning, with the error, exactly if there is an error. What else is done to the
contexts in between, which spans are started and ended and in which order, and how the clocks move
makes no difference. -/
theorem span_timed {ops : Nat → Operation} {course : Nat → Realm σ} (hrun : Unfolds ops course)
    {j k : Nat} (hjk : j < k) {parent span : ContextId} {name : String} {attributes : Attributes}
    {time : TimeSource} (hopen : ops j = .openSpan parent name attributes)
    (htraced : (course j).observerOf parent = .tracing time)
    (hspan : span = ((course j).openSpan parent name attributes).1)
    (hkept : ∀ i, j < i → i < k → ¬ (ops i).Restamps span) (closing : Attributes)
    (error : Option String) :
    ∃ record : LogRecord,
      ((course k).closeSpan (.tracing time) span closing error).journal =
        (if ((course k).context span).logging then
          (course k).journal.push (((course k).context span).sink, record)
        else (course k).journal) ∧
      (ops k = .closeSpan span closing error → (course k).observerOf span = .tracing time →
        (course (k + 1)).journal =
          ((course k).closeSpan (.tracing time) span closing error).journal) ∧
      Entries.find? "span" record.fields = some (.str name) ∧
      (Entries.find? "duration_ms" record.fields).bind Json.natural? =
        some ((((course k).wallTime time).toNat - ((course j).wallTime time).toNat) / 1000000) ∧
      match error with
      | some text => record.level = .warn ∧ Entries.find? "error" record.fields = some (.str text)
      | none => record.level = .debug := by
  have hstart : (course (j + 1)).Stamped span name ((course j).wallTime time) := by
    have hborn := stamped_openSpan htraced name attributes
    rw [← hspan] at hborn
    obtain ⟨clock, wall, hnext⟩ := hrun j
    rw [hnext, hopen]
    exact ⟨hborn.lt_size, hborn.startTime, hborn.spanName⟩
  have hend := hstart.unfolds hrun hjk fun i hji hik => hkept i hji hik
  refine ⟨_, journal_closeSpan .., fun hclose hobserver => ?_,
    hend.farewell_tells time closing error⟩
  obtain ⟨clock, wall, hnext⟩ := hrun k
  rw [hnext, hclose, Operation.act, hobserver]

/-- A span in a root whose spans are traced, and another one in a context derived from the first;
the first is ended before the second. -/
def overtaking : Nat → Operation := fun i =>
  [.addRoot .kept, .setHandle 0 Key.observer (.observer (.tracing .shared)),
    .openSpan 0 "outer" [], .advance (.ofMillis 5), .derive 1, .openSpan 2 "inner" [],
    .advance (.ofMillis 7), .closeSpan 1 [] none].getD i (.advance (.ofMillis 3))

theorem span_timed_overtaking :
    Unfolds overtaking (vacant.after overtaking) ∧ 5 < 9 ∧
      overtaking 5 = .openSpan 2 "inner" [] ∧
      (vacant.after overtaking 5).observerOf 2 = .tracing .shared ∧
      3 = ((vacant.after overtaking 5).openSpan 2 "inner" []).1 ∧
      (∀ i, 5 < i → i < 9 → ¬ (overtaking i).Restamps 3) ∧
      ∃ record : LogRecord,
        ((vacant.after overtaking 9).closeSpan (.tracing .shared) 3 [] (some "late")).journal =
          (vacant.after overtaking 9).journal.push (.kept, record) ∧
        Entries.find? "span" record.fields = some (.str "inner") ∧
        (Entries.find? "duration_ms" record.fields).bind Json.natural? = some 10 ∧
        record.level = .warn ∧ Entries.find? "error" record.fields = some (.str "late") := by
  have hopen : overtaking 5 = .openSpan 2 "inner" [] := rfl
  have htraced : (vacant.after overtaking 5).observerOf 2 = .tracing .shared := by decide +kernel
  have hspan : 3 = ((vacant.after overtaking 5).openSpan 2 "inner" []).1 := by decide +kernel
  have hkept : ∀ i, 5 < i → i < 9 → ¬ (overtaking i).Restamps 3 := by
    rintro i hlo hhi ⟨name, value, hwrite, -⟩
    interval_cases i <;> cases hwrite
  obtain ⟨record, hjournal, -, hname, hmillis, hlevel, herror⟩ :=
    span_timed (unfolds_after overtaking vacant) (by decide) hopen htraced hspan hkept []
      (some "late")
  have hlogs : ((vacant.after overtaking 9).context 3).logging = true ∧
      ((vacant.after overtaking 9).context 3).sink = .kept := by decide +kernel
  have htime : ((vacant.after overtaking 9).wallTime .shared).toNat = 15000000 ∧
      ((vacant.after overtaking 5).wallTime .shared).toNat = 5000000 := by decide +kernel
  rw [if_pos hlogs.1, hlogs.2] at hjournal
  rw [htime.1, htime.2] at hmillis
  exact ⟨unfolds_after _ _, by decide, hopen, htraced, hspan, hkept, record, hjournal, hname,
    hmillis, hlevel, herror⟩

end Realm
end EventRelay
