import EventRelay.Proofs.Realm.Account
import EventRelay.Proofs.Text.Truncation
import Mathlib.Data.List.Forall2

/-!
# Work under catches, poll by poll

A poll does the deeds of the account up to the next suspension, however deep the work is nested and
whatever was done on the thread before; the polls of a piece of work do its whole account. Work that
is run to its end is polled until it ends with nobody else at work in between.

* `Body.poll_polled`: what one poll does.
* `Body.run_of_poll`: running is polling.
* `Realm.containTurn_polled`, `Realm.contain_run`: the same under a catch.
* `Realm.Driven`: the polls of work under a catch, in whatever realms.
* `Realm.panics_accounted`: every run and every way to poll follows the account.
-/

namespace EventRelay

namespace Realm

variable {σ : Type}

/-- No trace is empty, neither one to come nor the one that was left. -/
structure Primed (r : Realm σ) : Prop where
  traces : ∀ n, r.capture.traces n ≠ ""
  trace : ∀ trace, r.capture.trace = some trace → trace ≠ ""

/-- Entering a catch throws away what was left. -/
theorem primed_enter {r : Realm σ} (h : ∀ n, r.capture.traces n ≠ "") : r.enter.Primed :=
  ⟨h, fun _ htrace => nomatch htrace⟩

theorem Primed.of_capture_eq {r r' : Realm σ} (h : r.Primed) (heq : r'.capture = r.capture) :
    r'.Primed :=
  ⟨fun n => heq ▸ h.traces n, fun trace htrace => h.trace trace (heq ▸ htrace)⟩

theorem Primed.leave {r : Realm σ} (h : r.Primed) : r.leave.Primed := ⟨h.traces, h.trace⟩

theorem Primed.suspend {r : Realm σ} (h : r.Primed) : r.suspend.Primed := by
  unfold Realm.suspend
  split
  · exact ⟨h.traces, fun _ htrace => nomatch htrace⟩
  · exact h

theorem Leaves.suspend (r : Realm σ) : Leaves [.paused] r r.suspend := by
  refine .single ?_
  unfold Realm.suspend
  split <;> rfl

theorem Primed.log {r : Realm σ} (h : r.Primed) (c : ContextId) (level : LogLevel)
    (message : String) (fields : List (String × String)) :
    (r.log c level message fields).Primed := by
  obtain ⟨journal, hlog⟩ := r.log_eq_or c level message fields
  rw [hlog]
  exact h.of_capture_eq rfl

theorem Primed.raise {r : Realm σ} (h : r.Primed) (payload : Payload) :
    (r.raise payload).Primed := by
  unfold Realm.raise
  dsimp only
  split
  · refine ⟨h.traces, fun trace htrace => ?_⟩
    cases htrace
    exact h.traces _
  · exact ⟨h.traces, h.trace⟩

/-- The trace that a panic is logged with, and where the taken trace leaves the realm. -/
theorem Primed.exists_trace {r : Realm σ} (h : r.Primed) (c : ContextId) (payload : Payload) :
    ∃ (trace : String) (s : Realm σ), trace ≠ "" ∧ s.Primed ∧ s.seen = r.seen ∧
      r.reportPanic c payload = s.log c .error "recovered from panic"
        [("panicError", payload.message), ("stackTrace", Text.truncate traceLimit trace)] := by
  cases htrace : r.capture.trace with
  | some trace =>
    refine ⟨trace, { r with capture := { r.capture with trace := none } }, h.trace trace htrace,
      ⟨h.traces, fun _ hnone => nomatch hnone⟩, rfl, ?_⟩
    simp only [reportPanic, htrace]
  | none =>
    refine ⟨r.takeTrace.1, r.takeTrace.2, h.traces _, ⟨h.traces, h.trace⟩, rfl, ?_⟩
    simp only [reportPanic, htrace]

theorem Primed.reportPanic {r : Realm σ} (h : r.Primed) (c : ContextId) (payload : Payload) :
    (r.reportPanic c payload).Primed := by
  obtain ⟨trace, s, -, hs, -, heq⟩ := h.exists_trace c payload
  rw [heq]
  exact hs.log ..

/-- A panic that is logged leaves its record. -/
theorem Primed.recovered {r : Realm σ} (h : r.Primed) (c : ContextId) (payload : Payload) :
    Does (.caught c payload) r.seen (r.reportPanic c payload).seen := by
  obtain ⟨trace, s, hne, -, hseen, heq⟩ := h.exists_trace c payload
  refine ⟨Text.truncate traceLimit trace, Text.truncate_ne_empty (by decide) hne,
    Text.utf8ByteSize_truncate_le .., ?_⟩
  rw [heq, seen_log, hseen]

/-- A poll under a catch leaves no empty trace. -/
theorem primed_containTurn {α : Type u} {r : Realm σ} {work : Realm σ → Turn α × Realm σ}
    (c : ContextId) (h : (work r.enter).2.Primed) : (r.containTurn c work).2.Primed := by
  unfold containTurn
  generalize work r.enter = worked at h
  obtain ⟨turn, s⟩ := worked
  cases turn with
  | returned a => exact h.leave
  | panicked payload => exact h.leave.reportPanic c payload
  | waiting rest => exact h.leave

end Realm

namespace Body

variable {σ : Type} {r r' s : Realm σ} {b b' : Body} {deeds more : List Deed} {turn : Turn String}

/-- A poll leaves no empty trace. -/
theorem primed_poll (b : Body) {r : Realm σ} (h : r.Primed) : (b.poll r).2.Primed := by
  induction b generalizing r with
  | done value | resume payload => exact h
  | suspended next => exact h
  | panic payload => exact h.raise payload
  | write c change next ih => exact ih ⟨h.traces, h.trace⟩
  | log c level message fields next ih => exact ih (h.log c level message fields)
  | guarded c inner next ihinner ihnext =>
    have hturn := Realm.primed_containTurn c (ihinner (Realm.primed_enter h.traces))
    rw [poll]
    generalize r.containTurn c inner.poll = polled at hturn
    obtain ⟨turn, s⟩ := polled
    cases turn with
    | returned result => exact ihnext result hturn
    | panicked payload => exact hturn
    | waiting rest => exact hturn
  | sheltered inner next ihinner ihnext =>
    have hinner := ihinner h
    rw [poll]
    generalize inner.poll r = polled at hinner
    obtain ⟨turn, s⟩ := polled
    cases turn with
    | returned value => exact ihnext _ hinner
    | panicked payload => exact ihnext _ hinner
    | waiting rest => exact hinner

/-- Deeds without a suspension among them. -/
def Unbroken (deeds : List Deed) : Prop := ∀ deed ∈ deeds, deed.isPaused = false

theorem unbroken_nil : Unbroken [] := fun _ hdeed => absurd hdeed List.not_mem_nil

theorem unbroken_single {deed : Deed} (h : deed.isPaused = false) : Unbroken [deed] :=
  fun _ hdeed => List.mem_singleton.1 hdeed ▸ h

theorem Unbroken.append (h : Unbroken deeds) (h' : Unbroken more) : Unbroken (deeds ++ more) :=
  fun deed hdeed => (List.mem_append.1 hdeed).elim (h deed) (h' deed)

/-- Deeds under a catch are suspended where they are. -/
theorem Unbroken.enclose (h : Unbroken deeds) : Unbroken (deeds.map Deed.enclose) := by
  intro deed hdeed
  obtain ⟨inner, hinner, rfl⟩ := List.mem_map.1 hdeed
  have hpaused := h inner hinner
  revert hpaused
  cases inner <;> exact id

/-- What a poll of work comes to: it does the deeds of the account up to the first suspension. -/
def Polled (b : Body) (r : Realm σ) : Turn String → Realm σ → Prop
  | .returned value, r' => b.verdict = .ok value ∧ Unbroken b.account ∧ Realm.Leaves b.account r r'
  | .panicked payload, r' =>
    b.verdict = .error payload ∧ Unbroken b.account ∧ Realm.Leaves b.account r r'
  | .waiting rest, r' => b.verdict = rest.verdict ∧ ∃ done,
    b.account = done ++ .paused :: rest.account ∧ Unbroken done ∧ Realm.Leaves done r r'

/-- Deeds before a poll. -/
theorem Polled.after (h : b'.Polled s turn r') (deeds : List Deed)
    (hverdict : b.verdict = b'.verdict) (haccount : b.account = deeds ++ b'.account)
    (hdeeds : Unbroken deeds) (hleaves : Realm.Leaves deeds r s) : b.Polled r turn r' := by
  cases turn with
  | returned value =>
    obtain ⟨hv, hpaused, hrest⟩ := h
    refine ⟨hverdict.trans hv, ?_, ?_⟩
    · rw [haccount]
      exact hdeeds.append hpaused
    · rw [haccount]
      exact hleaves.append hrest
  | panicked payload =>
    obtain ⟨hv, hpaused, hrest⟩ := h
    refine ⟨hverdict.trans hv, ?_, ?_⟩
    · rw [haccount]
      exact hdeeds.append hpaused
    · rw [haccount]
      exact hleaves.append hrest
  | waiting rest =>
    obtain ⟨hv, done, hdone, hpaused, hrest⟩ := h
    refine ⟨hverdict.trans hv, deeds ++ done, ?_, hdeeds.append hpaused, hleaves.append hrest⟩
    rw [haccount, hdone, List.append_assoc]

/-- What a poll of work under a catch comes to. -/
def PolledUnder (c : ContextId) (b : Body) (r : Realm σ) : Turn (Option String) → Realm σ → Prop
  | .returned result, r' => result = b.verdict.toOption ∧
    Unbroken (Deed.underCatch c b.account b.verdict) ∧
      Realm.Leaves (Deed.underCatch c b.account b.verdict) r r'
  | .panicked _, _ => False
  | .waiting rest, r' => b.verdict = rest.verdict ∧ ∃ done,
    Deed.underCatch c b.account b.verdict =
      done ++ .paused :: Deed.underCatch c rest.account rest.verdict ∧ Unbroken done ∧
        Realm.Leaves done r r'

/-- A poll under a catch does what the poll inside does, and catches its panic. -/
theorem Polled.containTurn (c : ContextId) (hprimed : (b.poll r.enter).2.Primed)
    (h : b.Polled r.enter (b.poll r.enter).1 (b.poll r.enter).2) :
    b.PolledUnder c r (r.containTurn c b.poll).1 (r.containTurn c b.poll).2 := by
  unfold Realm.containTurn
  generalize b.poll r.enter = polled at hprimed h
  obtain ⟨turn, s⟩ := polled
  cases turn with
  | returned value =>
    obtain ⟨hv, hpaused, hleaves⟩ := h
    unfold PolledUnder
    rw [hv, Deed.underCatch_ok]
    exact ⟨rfl, hpaused.enclose, hleaves.enclose⟩
  | panicked payload =>
    obtain ⟨hv, hpaused, hleaves⟩ := h
    unfold PolledUnder
    rw [hv, Deed.underCatch_error]
    exact ⟨rfl, hpaused.enclose.append (unbroken_single rfl),
      hleaves.enclose.append (.single (hprimed.leave.recovered c payload))⟩
  | waiting rest =>
    obtain ⟨hv, done, hdone, hpaused, hleaves⟩ := h
    refine ⟨hv, done.map Deed.enclose, ?_, hpaused.enclose, hleaves.enclose⟩
    rw [hdone, hv]
    simp [Deed.underCatch, Deed.enclose]

/-- A poll does the deeds of the account up to the first suspension. -/
theorem poll_polled (b : Body) {r : Realm σ} (h : r.Primed) :
    b.Polled r (b.poll r).1 (b.poll r).2 := by
  induction b generalizing r with
  | done value => exact ⟨rfl, unbroken_nil, .refl r⟩
  | resume payload => exact ⟨rfl, unbroken_nil, .refl r⟩
  | panic payload => exact ⟨rfl, unbroken_single rfl, .single (r.seen_raise payload)⟩
  | suspended next ih => exact ⟨rfl, [], rfl, unbroken_nil, .refl r⟩
  | write c change next ih =>
    have hnext : Realm.Primed (r.update c change) := ⟨h.traces, h.trace⟩
    exact (ih hnext).after [.wrote c change] rfl rfl (unbroken_single rfl) (.single rfl)
  | log c level message fields next ih =>
    exact (ih (h.log c level message fields)).after [.logged c level message fields] rfl rfl
      (unbroken_single rfl) (.single (r.seen_log c level message fields))
  | guarded c inner next ihinner ihnext =>
    have hentered := Realm.primed_enter h.traces
    have hprimed := Realm.primed_containTurn c (inner.primed_poll hentered)
    have hturn := (ihinner hentered).containTurn c (inner.primed_poll hentered)
    rw [poll]
    generalize r.containTurn c inner.poll = polled at hprimed hturn
    obtain ⟨turn, s⟩ := polled
    cases turn with
    | returned result =>
      obtain ⟨rfl, hpaused, hleaves⟩ := hturn
      exact (ihnext _ hprimed).after _ rfl rfl hpaused hleaves
    | panicked payload => exact hturn.elim
    | waiting rest =>
      obtain ⟨hv, done, hdone, hpaused, hleaves⟩ := hturn
      refine ⟨?_, done, ?_, hpaused, hleaves⟩
      · rw [verdict, verdict, hv]
      · rw [account, account, hdone, hv, List.append_assoc, List.cons_append]
  | sheltered inner next ihinner ihnext =>
    have hprimed := inner.primed_poll h
    have hinner := ihinner h
    rw [poll]
    generalize inner.poll r = polled at hprimed hinner
    obtain ⟨turn, s⟩ := polled
    cases turn with
    | returned value =>
      obtain ⟨hv, hpaused, hleaves⟩ := hinner
      refine (ihnext (.ok value) hprimed).after inner.account ?_ ?_ hpaused hleaves
      · rw [verdict, hv]
      · rw [account, hv]
    | panicked payload =>
      obtain ⟨hv, hpaused, hleaves⟩ := hinner
      refine (ihnext (.error payload) hprimed).after inner.account ?_ ?_ hpaused hleaves
      · rw [verdict, hv]
      · rw [account, hv]
    | waiting rest =>
      obtain ⟨hv, done, hdone, hpaused, hleaves⟩ := hinner
      refine ⟨?_, done, ?_, hpaused, hleaves⟩
      · rw [verdict, verdict, hv]
      · rw [account, account, hdone, hv, List.append_assoc, List.cons_append]

/-- A poll under a catch does the deeds of the account up to the first suspension. -/
theorem containTurn_polled (c : ContextId) (b : Body) {r : Realm σ}
    (h : ∀ n, r.capture.traces n ≠ "") :
    b.PolledUnder c r (r.containTurn c b.poll).1 (r.containTurn c b.poll).2 :=
  have hentered := Realm.primed_enter h
  (b.poll_polled hentered).containTurn c (b.primed_poll hentered)

/-! ## Running is polling -/

/-- What running work does once it was polled. -/
def RunAfter (b : Body) (r : Realm σ) : Turn String → Realm σ → Prop
  | .returned value, r' => b.run r = (.returned value, r')
  | .panicked payload, r' => b.run r = (.panicked payload, r')
  | .waiting rest, r' => b.run r = rest.run r'.suspend

theorem RunAfter.of_run_eq (h : b'.RunAfter s turn r') (heq : b.run r = b'.run s) :
    b.RunAfter r turn r' := by
  cases turn <;> exact heq.trans h

/-- Within a catch, a suspension is leaving the catch and entering it again. -/
theorem enter_leave (h : 0 < s.capture.depth) : s.leave.enter = s.suspend := by
  unfold Realm.suspend Realm.leave Realm.enter
  rw [if_pos h, Nat.sub_add_cancel h]

theorem enter_suspend (s : Realm σ) : s.suspend.enter = s.enter := by
  unfold Realm.suspend
  split <;> rfl

theorem run_guarded_of_eq {c : ContextId} {inner inner' : Body} (next : Option String → Body)
    (h : inner.run r.enter = inner'.run s.enter) :
    (guarded c inner next).run r = (guarded c inner' next).run s := by
  rw [run, run]
  unfold Realm.contain
  rw [h]

/-- Running work is polling it and running the rest. -/
theorem run_of_poll (b : Body) {r : Realm σ} (h : r.Primed) :
    b.RunAfter r (b.poll r).1 (b.poll r).2 := by
  induction b generalizing r with
  | done value | panic payload | resume payload | suspended next ih => exact rfl
  | write c change next ih =>
    have hnext : Realm.Primed (r.update c change) := ⟨h.traces, h.trace⟩
    exact (ih hnext).of_run_eq rfl
  | log c level message fields next ih =>
    exact (ih (h.log c level message fields)).of_run_eq rfl
  | guarded c inner next ihinner ihnext =>
    have hentered := Realm.primed_enter h.traces
    have hprimed := Realm.primed_containTurn c (inner.primed_poll hentered)
    have hpolled := inner.poll_polled hentered
    have hinner := ihinner hentered
    rw [poll]
    unfold Realm.containTurn at hprimed ⊢
    generalize inner.poll r.enter = polled at hprimed hpolled hinner
    obtain ⟨turn, s⟩ := polled
    cases turn with
    | returned value =>
      refine (ihnext (some value) hprimed).of_run_eq ?_
      rw [run, Realm.contain, show inner.run r.enter = _ from hinner]
    | panicked payload =>
      refine (ihnext none hprimed).of_run_eq ?_
      rw [run, Realm.contain, show inner.run r.enter = _ from hinner]
    | waiting rest =>
      obtain ⟨-, done, -, -, hleaves⟩ := hpolled
      have hdepth : 0 < s.capture.depth := hleaves.depth ▸ Nat.succ_pos r.capture.depth
      refine run_guarded_of_eq next ?_
      rw [enter_suspend, enter_leave hdepth]
      exact hinner
  | sheltered inner next ihinner ihnext =>
    have hprimed := inner.primed_poll h
    have hinner := ihinner h
    rw [poll]
    generalize inner.poll r = polled at hprimed hinner
    obtain ⟨turn, s⟩ := polled
    cases turn with
    | returned value =>
      refine (ihnext (.ok value) hprimed).of_run_eq ?_
      rw [run, show inner.run r = _ from hinner]
    | panicked payload =>
      refine (ihnext (.error payload) hprimed).of_run_eq ?_
      rw [run, show inner.run r = _ from hinner]
    | waiting rest =>
      show (sheltered inner next).run r = (sheltered rest next).run s.suspend
      rw [run, run, show inner.run r = _ from hinner]

/-- How a run of work ends. -/
def ending (b : Body) : Outcome String :=
  match b.verdict with
  | .ok value => .returned value
  | .error payload => .panicked payload

theorem ending_congr (h : b.verdict = b'.verdict) : b.ending = b'.ending := by
  rw [ending, h, ending]

/-- A run does the whole account. -/
theorem run_follows (b : Body) {r : Realm σ} (h : r.Primed) :
    ∃ r', b.run r = (b.ending, r') ∧ r'.Primed ∧ Realm.Leaves b.account r r' := by
  -- by the number of suspensions that are left
  induction hleft : b.account.countP Deed.isPaused using Nat.strongRecOn
    generalizing b r with
  | ind left ih =>
    have hprimed := b.primed_poll h
    have hpolled := b.poll_polled h
    have hrun := b.run_of_poll h
    generalize b.poll r = polled at hprimed hpolled hrun
    obtain ⟨turn, s⟩ := polled
    cases turn with
    | returned value =>
      obtain ⟨hverdict, -, hleaves⟩ := hpolled
      refine ⟨s, ?_, hprimed, hleaves⟩
      rw [ending, hverdict]
      exact hrun
    | panicked payload =>
      obtain ⟨hverdict, -, hleaves⟩ := hpolled
      refine ⟨s, ?_, hprimed, hleaves⟩
      rw [ending, hverdict]
      exact hrun
    | waiting rest =>
      obtain ⟨hverdict, done, haccount, -, hdone⟩ := hpolled
      have hless : rest.account.countP Deed.isPaused < left := by
        rw [← hleft, haccount, List.countP_append, List.countP_cons_of_pos rfl]
        omega
      obtain ⟨r', hrest, hprimed', hleaves⟩ := ih _ hless rest hprimed.suspend rfl
      refine ⟨r', ?_, hprimed', ?_⟩
      · rw [ending_congr hverdict, ← hrest]
        exact hrun
      · rw [haccount]
        exact hdone.append ((Realm.Leaves.suspend s).append hleaves)

end Body

namespace Realm

variable {σ : Type} {c : ContextId} {b : Body} {r r' : Realm σ} {deeds : List Deed}

/-! ## Under a catch -/

/-- What deeds do that are all under a catch: what they say, and neither the depth of catches nor
what was reported to the process changes. -/
structure Contains (deeds : List Deed) (r r' : Realm σ) : Prop where
  leaves : Leaves deeds r r'
  depth : r'.capture.depth = r.capture.depth
  uncaught : r'.capture.uncaught = r.capture.uncaught
  contexts : r'.contexts = deeds.foldl Deed.rewrite r.contexts

theorem Leaves.contains (h : Leaves deeds r r') (hexposed : deeds.filterMap Deed.exposed? = []) :
    Contains deeds r r' where
  leaves := h
  depth := h.depth
  uncaught := by rw [h.uncaught, hexposed, ite_self, List.append_nil]
  contexts := h.contexts

/-- Work under a catch returns what it comes to, and does its account under the catch. -/
theorem contain_run (c : ContextId) (b : Body) (h : ∀ n, r.capture.traces n ≠ "") :
    ∃ r', r.contain c b.run = (.returned b.verdict.toOption, r') ∧
      Contains (Deed.underCatch c b.account b.verdict) r r' := by
  obtain ⟨s, hrun, hprimed, hleaves⟩ := b.run_follows (primed_enter h)
  unfold contain
  rw [hrun, Body.ending]
  cases hverdict : b.verdict with
  | ok value =>
    refine ⟨s.leave, rfl, Leaves.contains ?_ (Deed.exposed_underCatch ..)⟩
    rw [Deed.underCatch_ok]
    exact hleaves.enclose
  | error payload =>
    refine ⟨s.leave.reportPanic c payload, rfl, Leaves.contains ?_ (Deed.exposed_underCatch ..)⟩
    exact hleaves.enclose.append (.single (hprimed.leave.recovered c payload))

/-- The polls of work under a catch, each with the realm that it found and the realm that it left,
and what the catch returns at last. Anything may be done between two polls. -/
inductive Driven (c : ContextId) : Body → List (Realm σ × Realm σ) → Option String → Prop
  | last {b r r' result} : r.containTurn c b.poll = (.returned result, r') →
    Driven c b [(r, r')] result
  | next {b r r' rest polls result} : r.containTurn c b.poll = (.waiting rest, r') →
    Driven c rest polls result → Driven c b ((r, r') :: polls) result

/-- The polls of work under a catch do its account, each up to the next suspension, and the catch
returns what the work comes to. -/
theorem Driven.follows {polls : List (Realm σ × Realm σ)} {result : Option String}
    (h : Driven c b polls result) (htraces : ∀ poll ∈ polls, ∀ n, poll.1.capture.traces n ≠ "") :
    result = b.verdict.toOption ∧
      List.Forall₂ (fun deeds poll => Contains deeds poll.1 poll.2)
        ((Deed.underCatch c b.account b.verdict).splitOnP Deed.isPaused) polls := by
  induction h with
  | @last b r r' result hturn =>
    have hpolled := b.containTurn_polled c (htraces (r, r') (List.mem_singleton.2 rfl))
    rw [hturn] at hpolled
    obtain ⟨hresult, hunbroken, hleaves⟩ := hpolled
    refine ⟨hresult, ?_⟩
    rw [List.splitOnP_eq_singleton hunbroken]
    exact .cons (hleaves.contains (Deed.exposed_underCatch ..)) .nil
  | @next b r r' rest polls result hturn _ ih =>
    have hpolled := b.containTurn_polled c (htraces (r, r') List.mem_cons_self)
    rw [hturn] at hpolled
    obtain ⟨hverdict, done, haccount, hunbroken, hleaves⟩ := hpolled
    obtain ⟨hresult, hpolls⟩ := ih fun poll hpoll => htraces poll (List.mem_cons_of_mem _ hpoll)
    have hexposed := Deed.exposed_underCatch c b.account b.verdict
    rw [haccount, List.filterMap_append, List.append_eq_nil_iff] at hexposed
    refine ⟨hverdict ▸ hresult, ?_⟩
    rw [haccount, List.splitOnP_append_cons_of_forall_mem hunbroken _ rfl]
    exact .cons (hleaves.contains hexposed.1) hpolls

/-- Work under a catch is over after finitely many polls, whatever is done between them. -/
theorem exists_driven (c : ContextId) (b : Body) {between : Realm σ → Realm σ} {r : Realm σ}
    (h : ∀ n, r.capture.traces n ≠ "")
    (hbetween : ∀ s : Realm σ, (∀ n, s.capture.traces n ≠ "") →
      ∀ n, (between s).capture.traces n ≠ "") :
    ∃ r' polls result, Driven c b ((r, r') :: polls) result ∧
      ((r, r') :: polls).IsChain (fun earlier later => later.1 = between earlier.2) ∧
      ∀ poll ∈ (r, r') :: polls, ∀ n, poll.1.capture.traces n ≠ "" := by
  -- by the number of suspensions that are left
  induction hleft : (Deed.underCatch c b.account b.verdict).countP Deed.isPaused
    using Nat.strongRecOn generalizing b r with
  | ind left ih =>
    have hpolled := b.containTurn_polled c h
    generalize hturn : r.containTurn c b.poll = polled at hpolled
    obtain ⟨turn, s⟩ := polled
    cases turn with
    | returned result =>
      refine ⟨s, [], result, .last hturn, .singleton _, ?_⟩
      rintro poll hpoll
      cases List.mem_singleton.1 hpoll
      exact h
    | panicked payload => exact hpolled.elim
    | waiting rest =>
      obtain ⟨hverdict, done, haccount, -, hdone⟩ := hpolled
      have hless : (Deed.underCatch c rest.account rest.verdict).countP Deed.isPaused < left := by
        rw [← hleft, haccount, List.countP_append, List.countP_cons_of_pos rfl]
        omega
      have hs : ∀ n, s.capture.traces n ≠ "" := by
        rw [hdone.traces]
        exact h
      obtain ⟨r', polls, result, hrest, hchain, htraces⟩ := ih _ hless rest (hbetween s hs) rfl
      refine ⟨s, _, result, .next hturn hrest, .cons_cons rfl hchain, ?_⟩
      rintro poll (_ | ⟨_, hpoll⟩)
      · exact h
      · exact htraces poll hpoll

/-- **Every panic is accounted for.** Work under a catch returns a value exactly if it ends with
one, and otherwise nothing. However deep catches are nested in it, each panic that reaches a catch
is logged once, through the context of the innermost such catch, a panic that the work swallows is
not logged, and what was written before a panic stays. The same holds when the work is polled, with
anything done between the polls, and the polls come to an end. No catch and no poll under a catch
changes the depth of catches, so the process is told exactly of the panics that no catch
encloses. -/
theorem panics_accounted (b : Body) (c : ContextId) (r : Realm σ) (h : r.Primed) :
    (∃ r', r.contain c b.run = (.returned b.verdict.toOption, r') ∧
      (b.run r.enter).1 = b.ending ∧ Contains (Deed.underCatch c b.account b.verdict) r r') ∧
    (∃ r', b.run r = (b.ending, r') ∧ Leaves b.account r r' ∧
      r'.capture.depth = r.capture.depth ∧
      r'.capture.uncaught = r.capture.uncaught ++
        if r.capture.depth = 0 then b.account.filterMap Deed.exposed? else []) ∧
    (∀ (polls : List (Realm σ × Realm σ)) (result : Option String), Driven c b polls result →
      (∀ poll ∈ polls, ∀ n, poll.1.capture.traces n ≠ "") →
      result = b.verdict.toOption ∧
        List.Forall₂ (fun deeds poll => Contains deeds poll.1 poll.2)
          ((Deed.underCatch c b.account b.verdict).splitOnP Deed.isPaused) polls) ∧
    (∀ between : Realm σ → Realm σ,
      (∀ s : Realm σ, (∀ n, s.capture.traces n ≠ "") →
        ∀ n, (between s).capture.traces n ≠ "") →
      ∃ r' polls result, Driven c b ((r, r') :: polls) result ∧
        ((r, r') :: polls).IsChain (fun earlier later => later.1 = between earlier.2) ∧
        ∀ poll ∈ (r, r') :: polls, ∀ n, poll.1.capture.traces n ≠ "") ∧
    ∀ (c : ContextId) (payload : Payload) (s s' : Realm σ), Recovered c payload s s' →
      if (s.context c).logging then
        ∃ record trace, s'.journal = s.journal.push ((s.context c).sink, record) ∧
          record.level = .error ∧ record.message = "recovered from panic" ∧
          record.field? "panicError" = some payload.message ∧
          record.field? "stackTrace" = some trace ∧ trace ≠ "" ∧ trace.utf8ByteSize ≤ traceLimit
      else s' = s := by
  refine ⟨?_, ?_, ?_, ?_, ?_⟩
  · obtain ⟨r', hcontain, hcontains⟩ := contain_run c b h.traces
    obtain ⟨s, hrun, -, -⟩ := b.run_follows (primed_enter h.traces)
    exact ⟨r', hcontain, congrArg Prod.fst hrun, hcontains⟩
  · obtain ⟨r', hrun, -, hleaves⟩ := b.run_follows h
    exact ⟨r', hrun, hleaves, hleaves.depth, hleaves.uncaught⟩
  · exact fun polls result hdriven htraces => hdriven.follows htraces
  · exact fun between hbetween => exists_driven c b h.traces hbetween
  · exact fun c payload s s' hrecovered => hrecovered.journal

/-- A root and a context derived from it. -/
def uneasy : Realm Unit :=
  ((Realm.start (.startingAt 0) (fun _ => 0) (fun _ => "at line 1") ()).addRoot .console).2.derive 0
    |>.2

/-- Work that swallows a panic, suffers a second one under a catch of its own after a suspension,
writes a value and ends by a third one after another suspension. -/
def mishaps : Body :=
  .sheltered (.panic (.text "swallowed")) fun _ =>
    .guarded 1 (.suspended (.panic (.text "inner"))) fun _ =>
      .put 0 "kept" (.bool true) (.suspended (.panic (.integer 42)))

theorem panics_accounted_mishaps :
    uneasy.Primed ∧ mishaps.verdict = .error (.integer 42) ∧
      Deed.underCatch 0 mishaps.account mishaps.verdict =
        [.enclosed (.text "swallowed"), .paused, .enclosed (.text "inner"),
          .caught 1 (.text "inner"), .wrote 0 (.setValue "kept" (.bool true)), .paused,
          .enclosed (.integer 42), .caught 0 (.integer 42)] ∧
      (∃ r', uneasy.contain 0 mishaps.run = (.returned none, r') ∧
        Contains (Deed.underCatch 0 mishaps.account mishaps.verdict) uneasy r') ∧
      ∃ polls : List (Realm Unit × Realm Unit), Driven 0 mishaps polls none ∧ polls.length = 3 := by
  have hprimed : uneasy.Primed :=
    ⟨fun _ => show "at line 1" ≠ "" by decide, fun _ htrace => nomatch htrace⟩
  obtain ⟨⟨r', hcontain, -, hcontains⟩, -, hpolls, hdriven, -⟩ :=
    panics_accounted mishaps 0 uneasy hprimed
  obtain ⟨s, polls, result, hdriven, -, htraces⟩ := hdriven id fun _ hs => hs
  obtain ⟨rfl, hpolls⟩ := hpolls _ result hdriven htraces
  exact ⟨hprimed, rfl, rfl, ⟨r', hcontain, hcontains⟩, _, hdriven, hpolls.length_eq.symm⟩

end Realm
end EventRelay
