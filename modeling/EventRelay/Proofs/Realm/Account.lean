import EventRelay.Realm.Panic

/-!
# The account of a piece of work

What work comes to is known from the work alone: its verdict, and an account of what it does in
order, in which every panic that reaches a catch stands once, with the innermost such catch, and a
panic that no catch of the work encloses stands as it is raised. The account says nothing of how
deep catches are nested or of traces.

* `Body.verdict`, `Body.account`: what work comes to and what it does.
* `Realm.Leaves`: what the deeds of an account make of a realm.
* `Realm.Leaves.enclose`: the same deeds under one more catch.
* `Realm.Recovered.journal`: what a caught panic leaves in the journal.
-/

namespace EventRelay

/-- What work does that can be seen, besides what it comes to. -/
inductive Deed where
  | wrote (c : ContextId) (change : Context → Context)
  | logged (c : ContextId) (level : LogLevel) (message : String)
      (fields : List (String × String))
  | raised (payload : Payload)
  | enclosed (payload : Payload)
  | caught (c : ContextId) (payload : Payload)
  | paused

namespace Deed

/-- A deed under one more catch: what is raised is enclosed. -/
def enclose : Deed → Deed
  | .raised payload => .enclosed payload
  | deed => deed

/-- Whether a deed is a suspension. -/
def isPaused : Deed → Bool
  | .paused => true
  | _ => false

/-- The payload of a panic that no catch of the work encloses. -/
def exposed? : Deed → Option Payload
  | .raised payload => some payload
  | _ => none

/-- The contexts after a deed. -/
def rewrite (contexts : Array Context) : Deed → Array Context
  | .wrote c change => contexts.modify c change
  | _ => contexts

/-- The deeds of work under a catch: a panic that reaches it is caught. -/
def underCatch (c : ContextId) (deeds : List Deed) (verdict : Except Payload String) : List Deed :=
  deeds.map enclose ++ match verdict with
    | .ok _ => []
    | .error payload => [.caught c payload]

variable (c : ContextId) (deeds : List Deed)

@[simp] theorem underCatch_ok (value : String) :
    underCatch c deeds (.ok value) = deeds.map enclose := List.append_nil _

@[simp] theorem underCatch_error (payload : Payload) :
    underCatch c deeds (.error payload) = deeds.map enclose ++ [.caught c payload] := rfl

/-- Nothing is exposed under a catch. -/
theorem exposed_underCatch (verdict : Except Payload String) :
    (underCatch c deeds verdict).filterMap exposed? = [] := by
  have henclosed : (deeds.map enclose).filterMap exposed? = [] := by
    rw [List.filterMap_map, List.filterMap_eq_nil_iff]
    intro deed _
    cases deed <;> rfl
  cases verdict with
  | ok value => rw [underCatch_ok, henclosed]
  | error payload =>
    rw [underCatch_error, List.filterMap_append, henclosed]
    rfl

end Deed

namespace Body

/-- What work comes to: its value, or the payload of the panic that reaches its end. -/
def verdict : Body → Except Payload String
  | .done value => .ok value
  | .panic payload | .resume payload => .error payload
  | .write _ _ next | .log _ _ _ _ next | .suspended next => next.verdict
  | .guarded _ inner next => (next inner.verdict.toOption).verdict
  | .sheltered inner next => (next inner.verdict).verdict

/-- What work does, in order. -/
def account : Body → List Deed
  | .done _ | .resume _ => []
  | .panic payload => [.raised payload]
  | .write c change next => .wrote c change :: next.account
  | .log c level message fields next => .logged c level message fields :: next.account
  | .suspended next => .paused :: next.account
  | .guarded c inner next =>
    Deed.underCatch c inner.account inner.verdict ++ (next inner.verdict.toOption).account
  | .sheltered inner next => inner.account ++ (next inner.verdict).account

end Body

namespace Realm

variable {σ : Type}

/-- A realm but for the trace that was left for a catcher and how many traces were taken. -/
def seen (r : Realm σ) : Realm σ :=
  { r with capture := { r.capture with trace := none, taken := 0 } }

/-- A caught panic leaves one record with its message and a trace within the bound, through the
context of the catch and like any record of it, and nothing else. -/
def Recovered (c : ContextId) (payload : Payload) (r r' : Realm σ) : Prop :=
  ∃ trace : String, trace ≠ "" ∧ trace.utf8ByteSize ≤ traceLimit ∧
    r' = r.log c .error "recovered from panic"
      [("panicError", payload.message), ("stackTrace", trace)]

/-- What one deed makes of a realm. A panic that no catch of the work encloses is reported if no
catch around the work encloses it either. -/
def Does : Deed → Realm σ → Realm σ → Prop
  | .wrote c change, r, r' => r' = r.update c change
  | .logged c level message fields, r, r' => r' = r.log c level message fields
  | .raised payload, r, r' =>
    r' = if 0 < r.capture.depth then r
      else { r with capture := { r.capture with uncaught := r.capture.uncaught ++ [payload] } }
  | .caught c payload, r, r' => Recovered c payload r r'
  | .enclosed _, r, r' | .paused, r, r' => r' = r

/-- What deeds make of a realm, one after the other. -/
def DoesAll : List Deed → Realm σ → Realm σ → Prop
  | [], r, r' => r' = r
  | deed :: deeds, r, r' => ∃ s, Does deed r s ∧ DoesAll deeds s r'

/-- Deeds make one realm of another, as far as can be seen. -/
def Leaves (deeds : List Deed) (r r' : Realm σ) : Prop := DoesAll deeds r.seen r'.seen

/-! ## What deeds leave alone -/

variable {r r' s : Realm σ} {deed : Deed} {deeds more : List Deed}

theorem log_eq_or (r : Realm σ) (c : ContextId) (level : LogLevel) (message : String)
    (fields : List (String × String)) :
    ∃ journal, r.log c level message fields = { r with journal := journal } := by
  unfold log emit
  dsimp only
  split
  · exact ⟨_, rfl⟩
  · exact ⟨r.journal, rfl⟩

theorem doesAll_append :
    DoesAll (deeds ++ more) r r' ↔ ∃ s, DoesAll deeds r s ∧ DoesAll more s r' := by
  induction deeds generalizing r with
  | nil => simp [DoesAll]
  | cons deed deeds ih =>
    simp only [List.cons_append, DoesAll, ih]
    constructor
    · rintro ⟨t, hdeed, s, hdeeds, hmore⟩
      exact ⟨s, ⟨t, hdeed, hdeeds⟩, hmore⟩
    · rintro ⟨s, ⟨t, hdeed, hdeeds⟩, hmore⟩
      exact ⟨t, hdeed, s, hdeeds, hmore⟩

/-- A deed leaves the depth of catches, and tells the process of a panic only if no catch encloses
it. -/
theorem Does.capture (h : Does deed r r') :
    r'.capture = { r.capture with uncaught := r.capture.uncaught ++
      if r.capture.depth = 0 then deed.exposed?.toList else [] } := by
  cases deed with
  | wrote c change | enclosed payload | paused =>
    cases h
    simp [Deed.exposed?, update]
  | logged c level message fields =>
    cases h
    obtain ⟨journal, hlog⟩ := r.log_eq_or c level message fields
    simp [hlog, Deed.exposed?]
  | caught c payload =>
    obtain ⟨trace, -, -, rfl⟩ := h
    obtain ⟨journal, hlog⟩ := r.log_eq_or c .error "recovered from panic"
      [("panicError", payload.message), ("stackTrace", trace)]
    simp [hlog, Deed.exposed?]
  | raised payload =>
    cases h
    split
    · next hdepth => simp [Nat.ne_of_gt hdepth]
    · next hdepth => simp [Nat.eq_zero_of_not_pos hdepth, Deed.exposed?]

/-- Deeds leave the depth of catches, and tell the process of the panics that no catch encloses. -/
theorem DoesAll.capture (h : DoesAll deeds r r') :
    r'.capture = { r.capture with uncaught := r.capture.uncaught ++
      if r.capture.depth = 0 then deeds.filterMap Deed.exposed? else [] } := by
  induction deeds generalizing r with
  | nil =>
    cases h
    simp
  | cons deed deeds ih =>
    obtain ⟨s, hdeed, hdeeds⟩ := h
    rw [ih hdeeds, hdeed.capture]
    by_cases hdepth : r.capture.depth = 0
    · cases hexposed : deed.exposed? <;> simp [hdepth, hexposed]
    · simp [hdepth]

/-- Writes stay, whatever comes after them. -/
theorem DoesAll.contexts (h : DoesAll deeds r r') :
    r'.contexts = deeds.foldl Deed.rewrite r.contexts := by
  induction deeds generalizing r with
  | nil =>
    cases h
    rfl
  | cons deed deeds ih =>
    obtain ⟨s, hdeed, hdeeds⟩ := h
    have hcontexts : s.contexts = Deed.rewrite r.contexts deed := by
      cases deed with
      | wrote c change | enclosed payload | paused =>
        cases hdeed
        rfl
      | logged c level message fields =>
        cases hdeed
        obtain ⟨journal, hlog⟩ := r.log_eq_or c level message fields
        rw [hlog]
        rfl
      | caught c payload =>
        obtain ⟨trace, -, -, rfl⟩ := hdeed
        obtain ⟨journal, hlog⟩ := r.log_eq_or c .error "recovered from panic"
          [("panicError", payload.message), ("stackTrace", trace)]
        rw [hlog]
        rfl
      | raised payload =>
        cases hdeed
        split <;> rfl
    rw [ih hdeeds, hcontexts, List.foldl_cons]

/-! ## One more catch around the work -/

/-- It makes no difference to a log line what is known of panics. -/
theorem log_mapCapture (f : Capture → Capture) (r : Realm σ) (c : ContextId) (level : LogLevel)
    (message : String) (fields : List (String × String)) :
    { r.log c level message fields with capture := f (r.log c level message fields).capture } =
      Realm.log { r with capture := f r.capture } c level message fields := by
  unfold log emit
  dsimp only
  split
  · next hlogging => exact (if_pos hlogging).symm
  · next hlogging => exact (if_neg hlogging).symm

theorem log_leave (r : Realm σ) (c : ContextId) (level : LogLevel) (message : String)
    (fields : List (String × String)) :
    (r.log c level message fields).leave = r.leave.log c level message fields :=
  log_mapCapture (fun capture => { capture with depth := capture.depth - 1 }) ..

/-- A deed inside a catch is the enclosed deed outside of it. -/
theorem Does.enclose (h : Does deed r r') (hdepth : 0 < r.capture.depth) :
    Does deed.enclose r.leave r'.leave := by
  cases deed with
  | wrote c change | enclosed payload | paused =>
    cases h
    rfl
  | logged c level message fields =>
    cases h
    exact r.log_leave c level message fields
  | caught c payload =>
    obtain ⟨trace, hne, hle, rfl⟩ := h
    exact ⟨trace, hne, hle, r.log_leave c .error _ _⟩
  | raised payload =>
    rw [Does, if_pos hdepth] at h
    cases h
    rfl

theorem DoesAll.enclose (h : DoesAll deeds r r') (hdepth : 0 < r.capture.depth) :
    DoesAll (deeds.map Deed.enclose) r.leave r'.leave := by
  induction deeds generalizing r with
  | nil =>
    cases h
    rfl
  | cons deed deeds ih =>
    obtain ⟨s, hdeed, hdeeds⟩ := h
    have hs : 0 < s.capture.depth := by
      rw [hdeed.capture]
      exact hdepth
    exact ⟨s.leave, hdeed.enclose hdepth, ih hdeeds hs⟩

/-! ## What can be seen -/

theorem seen_log (r : Realm σ) (c : ContextId) (level : LogLevel) (message : String)
    (fields : List (String × String)) :
    (r.log c level message fields).seen = r.seen.log c level message fields :=
  log_mapCapture (fun capture => { capture with trace := none, taken := 0 }) ..

theorem seen_raise (r : Realm σ) (payload : Payload) :
    Does (.raised payload) r.seen (r.raise payload).seen := by
  unfold raise
  rw [Does]
  dsimp only
  split
  · next hdepth => exact (if_pos hdepth).symm
  · next hdepth => exact (if_neg hdepth).symm

namespace Leaves

theorem refl (r : Realm σ) : Leaves [] r r := rfl

theorem append (h : Leaves deeds r s) (h' : Leaves more s r') : Leaves (deeds ++ more) r r' :=
  doesAll_append.2 ⟨s.seen, h, h'⟩

theorem single (h : Does deed r.seen r'.seen) : Leaves [deed] r r' := ⟨r'.seen, h, rfl⟩

theorem capture (h : Leaves deeds r r') :
    r'.seen.capture = { r.seen.capture with uncaught := r.capture.uncaught ++
      if r.capture.depth = 0 then deeds.filterMap Deed.exposed? else [] } :=
  DoesAll.capture h

theorem depth (h : Leaves deeds r r') : r'.capture.depth = r.capture.depth := by
  have hcapture := congrArg Capture.depth h.capture
  exact hcapture

theorem traces (h : Leaves deeds r r') : r'.capture.traces = r.capture.traces := by
  have hcapture := congrArg Capture.traces h.capture
  exact hcapture

theorem uncaught (h : Leaves deeds r r') :
    r'.capture.uncaught = r.capture.uncaught ++
      if r.capture.depth = 0 then deeds.filterMap Deed.exposed? else [] := by
  have hcapture := congrArg Capture.uncaught h.capture
  exact hcapture

theorem contexts (h : Leaves deeds r r') : r'.contexts = deeds.foldl Deed.rewrite r.contexts := by
  have hall : DoesAll deeds r.seen r'.seen := h
  exact hall.contexts

/-- What is done between entering a catch and leaving it is done enclosed. -/
theorem enclose (h : Leaves deeds r.enter r') : Leaves (deeds.map Deed.enclose) r r'.leave :=
  DoesAll.enclose h (Nat.succ_pos _)

end Leaves

/-- The record of a caught panic is one at the level of errors with the panic's message and a trace
that is not empty and within the bound, and there is none if the context does not log. -/
theorem Recovered.journal {c : ContextId} {payload : Payload} (h : Recovered c payload r r') :
    if (r.context c).logging then
      ∃ record trace, r'.journal = r.journal.push ((r.context c).sink, record) ∧
        record.level = .error ∧ record.message = "recovered from panic" ∧
        record.field? "panicError" = some payload.message ∧
        record.field? "stackTrace" = some trace ∧ trace ≠ "" ∧ trace.utf8ByteSize ≤ traceLimit
    else r' = r := by
  obtain ⟨trace, hne, hle, rfl⟩ := h
  have hfields : textFields [("panicError", payload.message), ("stackTrace", trace)] =
      [("panicError", .str payload.message), ("stackTrace", .str trace)] := by
    simp [textFields, Entries.ofList, Entries.insert,
      show ¬ "stackTrace" < "panicError" by decide]
  unfold log emit
  rw [hfields]
  dsimp only
  split
  · refine ⟨_, trace, rfl, rfl, rfl, ?_, ?_, hne, hle⟩
    · simp [LogRecord.field?, Entries.overlay, Entries.find?_insert, Json.fieldText]
    · simp [LogRecord.field?, Entries.overlay, Json.fieldText]
  · rfl

end Realm
end EventRelay
