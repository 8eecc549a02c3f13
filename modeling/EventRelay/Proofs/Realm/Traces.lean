import EventRelay.Proofs.Realm.Polls
import Mathlib.Data.List.Induction

/-!
# Whose trace a caught panic is logged with

The trace of a panic lies for a catcher from where the panic is raised until a catch is entered, the
work is suspended or a panic is logged. A panic that is raised and caught is logged with its own
trace. A panic that is resumed leaves no trace, so it is logged with the trace of the last panic
that was swallowed before it, if that still lies there, and with one taken at the catch if not.

* `Body.moves`: what work does to a realm, catches and panics that are resumed among it.
* `Body.run_moves`, `Realm.contain_of_run`: running work is doing its moves.
* `Move.Lies`: the panic whose trace lies for a catcher after some moves.
* `Realm.trace_of_lies`: what lies there is the trace of that panic.
* `Realm.traces_shown`: the trace that each caught panic is logged with.
-/

namespace EventRelay

/-- One thing that work does to a realm. A panic that is resumed does nothing to it. -/
inductive Move where
  | wrote (c : ContextId) (change : Context → Context)
  | logged (c : ContextId) (level : LogLevel) (message : String)
      (fields : List (String × String))
  | raised (payload : Payload)
  | resumed (payload : Payload)
  | paused
  | entered
  | left
  | caught (c : ContextId) (payload : Payload)

namespace Move

/-- A move that leaves what lies for a catcher where it is. -/
def Keeps : Move → Prop
  | .wrote .. | .logged .. | .resumed _ | .left => True
  | .raised _ | .paused | .entered | .caught .. => False

/-- A move that the catches around it change. -/
def Minds : Move → Prop
  | .raised _ | .paused => True
  | .wrote .. | .logged .. | .resumed _ | .entered | .left | .caught .. => False

/-- The moves of work under a catch. -/
def underCatch (c : ContextId) (moves : List Move) (verdict : Except Payload String) : List Move :=
  .entered :: (moves ++ .left ::
    match verdict with
    | .ok _ => []
    | .error payload => [.caught c payload])

/-- After some moves the trace of a panic lies for a catcher: `before` are the moves up to where it
was raised. -/
def Lies (before : List Move) (payload : Payload) (moves : List Move) : Prop :=
  ∃ since, moves = before ++ .raised payload :: since ∧ ∀ move ∈ since, move.Keeps

end Move

/-- The moves of work, in order. -/
def Body.moves : Body → List Move
  | .done _ => []
  | .panic payload => [.raised payload]
  | .resume payload => [.resumed payload]
  | .write c change next => .wrote c change :: next.moves
  | .log c level message fields next => .logged c level message fields :: next.moves
  | .suspended next => .paused :: next.moves
  | .guarded c inner next =>
    Move.underCatch c inner.moves inner.verdict ++ (next inner.verdict.toOption).moves
  | .sheltered inner next => inner.moves ++ (next inner.verdict).moves

/-- The moves of work that a catch encloses. -/
def Body.movesUnder (b : Body) (c : ContextId) : List Move := Move.underCatch c b.moves b.verdict

namespace Realm

variable {σ : Type}

/-- A realm after a move. -/
def act (r : Realm σ) : Move → Realm σ
  | .wrote c change => r.update c change
  | .logged c level message fields => r.log c level message fields
  | .raised payload => r.raise payload
  | .resumed _ => r
  | .paused => r.suspend
  | .entered => r.enter
  | .left => r.leave
  | .caught c payload => r.reportPanic c payload

/-- A realm after moves, one after the other. -/
def moved (r : Realm σ) (moves : List Move) : Realm σ := moves.foldl act r

/-- The trace that the next one to take one gets. -/
def nextTrace (r : Realm σ) : String := r.capture.traces r.capture.taken

/-- The trace that a panic would be logged with: the one that lies there, or one taken now. -/
def shownTrace (r : Realm σ) : String := r.capture.trace.getD r.nextTrace

/-- A realm that was shown its trace. -/
def settled (r : Realm σ) : Realm σ :=
  match r.capture.trace with
  | some _ => { r with capture := { r.capture with trace := none } }
  | none => r.takeTrace.2

variable {c d : ContextId} {b : Body} {payload : Payload} {r : Realm σ} {moves more : List Move}

@[simp] theorem moved_nil (r : Realm σ) : r.moved [] = r := rfl

@[simp] theorem moved_cons (r : Realm σ) (move : Move) (moves : List Move) :
    r.moved (move :: moves) = (r.act move).moved moves := rfl

@[simp] theorem moved_append (r : Realm σ) (moves more : List Move) :
    r.moved (moves ++ more) = (r.moved moves).moved more := List.foldl_append

/-- A caught panic is logged with its message and the trace that is shown, within the bound. -/
theorem reportPanic_eq_log (r : Realm σ) (c : ContextId) (payload : Payload) :
    r.reportPanic c payload = r.settled.log c .error "recovered from panic"
      [("panicError", payload.message),
        ("stackTrace", Text.truncate traceLimit r.shownTrace)] := by
  unfold reportPanic settled shownTrace
  cases r.capture.trace <;> rfl

/-! ## Running work is doing its moves -/

/-- Work under a catch does its moves between entering the catch and leaving it. -/
theorem contain_of_run (c : ContextId) (h : b.run r.enter = (b.ending, r.enter.moved b.moves)) :
    r.contain c b.run = (.returned b.verdict.toOption, r.moved (b.movesUnder c)) := by
  rw [contain, h, Body.ending, Body.movesUnder]
  cases b.verdict with
  | ok value => simp [Move.underCatch, act, Except.toOption]
  | error payload => simp [Move.underCatch, act, Except.toOption]

end Realm

namespace Body

variable {σ : Type}

/-- Running work does its moves. -/
theorem run_moves (b : Body) (r : Realm σ) : b.run r = (b.ending, r.moved b.moves) := by
  induction b generalizing r with
  | done value | panic payload | resume payload => rfl
  | write c change next ih => exact ih (r.update c change)
  | log c level message fields next ih => exact ih (r.log c level message fields)
  | suspended next ih => exact ih r.suspend
  | guarded c inner next ihinner ihnext =>
    rw [run, Realm.contain_of_run c (ihinner r.enter), moves, Realm.moved_append]
    exact ihnext _ _
  | sheltered inner next ihinner ihnext =>
    rw [run, ihinner r, moves, Realm.moved_append, ending]
    cases hverdict : inner.verdict with
    | ok value =>
      have hending : (sheltered inner next).ending = (next (.ok value)).ending :=
        ending_congr (by rw [verdict, hverdict])
      rw [hending]
      exact ihnext (.ok value) _
    | error payload =>
      have hending : (sheltered inner next).ending = (next (.error payload)).ending :=
        ending_congr (by rw [verdict, hverdict])
      rw [hending]
      exact ihnext (.error payload) _

end Body

/-! ## What leads up to a catch -/

/-- An item of two lists put together stands in the one or in the other. -/
theorem List.split_of_append {α : Type} {first second before after : List α} {a : α}
    (h : first ++ second = before ++ a :: after) :
    (∃ rest, first = before ++ a :: rest ∧ after = rest ++ second) ∨
      ∃ rest, before = first ++ rest ∧ second = rest ++ a :: after := by
  obtain ⟨rest, hbefore, hsecond⟩ | ⟨rest, hfirst, hafter⟩ := List.append_eq_append_iff.1 h
  · exact .inr ⟨rest, hbefore, hsecond⟩
  · cases rest with
    | nil =>
      rw [List.append_nil] at hfirst
      exact .inr ⟨[], by rw [hfirst, List.append_nil], hafter.symm⟩
    | cons a' rest =>
      cases hafter
      exact .inl ⟨rest, hfirst, rfl⟩

theorem List.split_of_singleton {α : Type} {a a' : α} {before after : List α}
    (h : [a] = before ++ a' :: after) : before = [] ∧ a = a' := by
  cases before with
  | nil =>
    cases h
    exact ⟨rfl, rfl⟩
  | cons first before =>
    rw [List.cons_append, List.cons.injEq] at h
    cases before <;> cases h.2

namespace Move

variable {c : ContextId} {payload : Payload} {verdict : Except Payload String} {move : Move}
  {moves more before : List Move}

/-- Whatever panic is caught was raised or resumed last before the catch was left. -/
def CatchesTold (moves : List Move) : Prop :=
  ∀ ⦃before d payload after⦄, moves = before ++ .caught d payload :: after →
    ∃ start, before = start ++ [.raised payload, .left] ∨
      before = start ++ [.resumed payload, .left]

theorem CatchesTold.append (h : CatchesTold moves) (h' : CatchesTold more) :
    CatchesTold (moves ++ more) := by
  intro before d payload after heq
  obtain ⟨rest, hmoves, -⟩ | ⟨rest, rfl, hmore⟩ := List.split_of_append heq
  · exact h hmoves
  · obtain ⟨start, rfl | rfl⟩ := h' hmore
    · exact ⟨moves ++ start, .inl (List.append_assoc ..).symm⟩
    · exact ⟨moves ++ start, .inr (List.append_assoc ..).symm⟩

theorem catchesTold_nil : CatchesTold [] := by
  intro before d payload after heq
  cases before <;> cases heq

theorem catchesTold_single (h : ∀ d payload, move ≠ .caught d payload) : CatchesTold [move] := by
  intro before d payload after heq
  exact absurd (List.split_of_singleton heq).2 (h d payload)

theorem CatchesTold.cons (h : CatchesTold moves) (hmove : ∀ d payload, move ≠ .caught d payload) :
    CatchesTold (move :: moves) :=
  (catchesTold_single hmove).append h

theorem CatchesTold.underCatch (h : CatchesTold moves)
    (hend : ∀ payload, verdict = .error payload → ∃ start,
      moves = start ++ [.raised payload] ∨ moves = start ++ [.resumed payload]) :
    CatchesTold (underCatch c moves verdict) := by
  have hleft : CatchesTold [.left] := catchesTold_single fun _ _ => nofun
  have hinner : CatchesTold (.entered :: (moves ++ [.left])) :=
    (h.append hleft).cons fun _ _ => nofun
  cases verdict with
  | ok value => exact hinner
  | error payload =>
    intro before d payload' after heq
    have hsplit : .entered :: (moves ++ [.left]) ++ [.caught c payload] =
        before ++ .caught d payload' :: after := by
      rw [← heq]
      simp [Move.underCatch]
    obtain ⟨rest, hmoves, -⟩ | ⟨rest, rfl, hlast⟩ := List.split_of_append hsplit
    · exact hinner hmoves
    · obtain ⟨rfl, hcaught⟩ := List.split_of_singleton hlast
      cases hcaught
      obtain ⟨start, rfl | rfl⟩ := hend payload rfl
      · exact ⟨.entered :: start, .inl (by simp)⟩
      · exact ⟨.entered :: start, .inr (by simp)⟩

end Move

namespace Body

/-- Work that ends by a panic raises it or resumes it last. -/
theorem moves_of_error {b : Body} {payload : Payload} (h : b.verdict = .error payload) :
    ∃ start, b.moves = start ++ [.raised payload] ∨ b.moves = start ++ [.resumed payload] := by
  have hcons : ∀ (moves : List Move) {more : List Move},
      (∃ start, more = start ++ [.raised payload] ∨ more = start ++ [.resumed payload]) →
        ∃ start, moves ++ more = start ++ [.raised payload] ∨
          moves ++ more = start ++ [.resumed payload] := by
    rintro moves _ ⟨start, rfl | rfl⟩
    · exact ⟨moves ++ start, .inl (List.append_assoc ..).symm⟩
    · exact ⟨moves ++ start, .inr (List.append_assoc ..).symm⟩
  induction b with
  | done value => cases h
  | panic payload =>
    cases h
    exact ⟨[], .inl rfl⟩
  | resume payload =>
    cases h
    exact ⟨[], .inr rfl⟩
  | write c change next ih => exact hcons [.wrote c change] (ih h)
  | log c level message fields next ih => exact hcons [.logged c level message fields] (ih h)
  | suspended next ih => exact hcons [.paused] (ih h)
  | guarded c inner next _ ihnext => exact hcons _ (ihnext _ h)
  | sheltered inner next _ ihnext => exact hcons _ (ihnext _ h)

theorem catchesTold_moves (b : Body) : Move.CatchesTold b.moves := by
  induction b with
  | done value => exact Move.catchesTold_nil
  | panic payload | resume payload => exact Move.catchesTold_single fun _ _ => nofun
  | write c change next ih | log c level message fields next ih | suspended next ih =>
    exact ih.cons fun _ _ => nofun
  | guarded c inner next ihinner ihnext =>
    exact (ihinner.underCatch fun _ => moves_of_error).append (ihnext _)
  | sheltered inner next ihinner ihnext => exact ihinner.append (ihnext _)

theorem catchesTold_movesUnder (b : Body) (c : ContextId) : Move.CatchesTold (b.movesUnder c) :=
  b.catchesTold_moves.underCatch fun _ => moves_of_error

end Body

namespace Realm

variable {σ : Type} {c : ContextId} {b : Body} {payload : Payload} {r : Realm σ} {move : Move}
  {moves more before : List Move}

/-! ## Moves under a catch -/

theorem depth_act (move : Move) (r : Realm σ) (hentered : move ≠ .entered) (hleft : move ≠ .left) :
    (r.act move).capture.depth = r.capture.depth := by
  cases move with
  | wrote c change | resumed payload => rfl
  | logged c level message fields =>
    obtain ⟨journal, hlog⟩ := r.log_eq_or c level message fields
    rw [act, hlog]
  | raised payload =>
    rw [act]
    unfold raise
    dsimp only
    split <;> rfl
  | paused =>
    rw [act]
    unfold suspend
    split <;> rfl
  | entered => exact absurd rfl hentered
  | left => exact absurd rfl hleft
  | caught c payload =>
    obtain ⟨journal, hlog⟩ := r.settled.log_eq_or c .error "recovered from panic"
      [("panicError", payload.message), ("stackTrace", Text.truncate traceLimit r.shownTrace)]
    rw [act, reportPanic_eq_log, hlog, settled]
    split <;> rfl

theorem depth_underCatch {verdict : Except Payload String}
    (h : (r.enter.moved moves).capture.depth = r.enter.capture.depth) :
    (r.moved (Move.underCatch c moves verdict)).capture.depth = r.capture.depth := by
  have hleft : (r.enter.moved moves).leave.capture.depth = r.capture.depth := by
    show (r.enter.moved moves).capture.depth - 1 = r.capture.depth
    rw [h]
    rfl
  cases verdict with
  | ok value =>
    simp only [Move.underCatch, moved_cons, moved_append]
    exact hleft
  | error payload =>
    simp only [Move.underCatch, moved_cons, moved_append]
    exact (depth_act (.caught c payload) _ nofun nofun).trans hleft

/-- Work leaves as many catches as it enters. -/
theorem depth_moves (b : Body) (r : Realm σ) :
    (r.moved b.moves).capture.depth = r.capture.depth := by
  induction b generalizing r with
  | done value => rfl
  | panic payload => exact depth_act (.raised payload) r nofun nofun
  | resume payload => rfl
  | write c change next ih => exact ih _
  | log c level message fields next ih =>
    exact (ih _).trans (depth_act (.logged c level message fields) r nofun nofun)
  | suspended next ih => exact (ih _).trans (depth_act .paused r nofun nofun)
  | guarded c inner next ihinner ihnext =>
    rw [Body.moves, moved_append, ihnext]
    exact depth_underCatch (ihinner r.enter)
  | sheltered inner next ihinner ihnext => rw [Body.moves, moved_append, ihnext, ihinner]

/-- Every move that minds the catches around it is made under one. -/
def Encloses : Realm σ → List Move → Prop
  | _, [] => True
  | r, move :: moves => (move.Minds → 0 < r.capture.depth) ∧ (r.act move).Encloses moves

theorem encloses_append :
    r.Encloses (moves ++ more) ↔ r.Encloses moves ∧ (r.moved moves).Encloses more := by
  induction moves generalizing r with
  | nil => simp [Encloses]
  | cons move moves ih => simp only [List.cons_append, Encloses, ih, moved_cons, and_assoc]

theorem encloses_underCatch {verdict : Except Payload String} (h : r.enter.Encloses moves) :
    r.Encloses (Move.underCatch c moves verdict) := by
  refine ⟨fun hminds => hminds.elim, encloses_append.2 ⟨h, fun hminds => hminds.elim, ?_⟩⟩
  cases verdict with
  | ok value => trivial
  | error payload => exact ⟨fun hminds => hminds.elim, trivial⟩

/-- Under a catch all of the moves of work are under one. -/
theorem encloses_moves (b : Body) (h : 0 < r.capture.depth) : r.Encloses b.moves := by
  induction b generalizing r with
  | done value => trivial
  | panic payload => exact ⟨fun _ => h, trivial⟩
  | resume payload => exact ⟨fun _ => h, trivial⟩
  | write c change next ih => exact ⟨fun _ => h, ih h⟩
  | log c level message fields next ih =>
    have hdepth := depth_act (.logged c level message fields) r nofun nofun
    exact ⟨fun _ => h, ih (hdepth ▸ h)⟩
  | suspended next ih =>
    have hdepth := depth_act .paused r nofun nofun
    exact ⟨fun _ => h, ih (hdepth ▸ h)⟩
  | guarded c inner next ihinner ihnext =>
    have hinner := ihinner (r := r.enter) (Nat.succ_pos _)
    refine encloses_append.2 ⟨encloses_underCatch hinner, ihnext _ ?_⟩
    rw [depth_underCatch (depth_moves inner r.enter)]
    exact h
  | sheltered inner next ihinner ihnext =>
    refine encloses_append.2 ⟨ihinner h, ihnext _ ?_⟩
    rw [depth_moves]
    exact h

theorem encloses_movesUnder (b : Body) (c : ContextId) (r : Realm σ) :
    r.Encloses (b.movesUnder c) :=
  encloses_underCatch (encloses_moves b (Nat.succ_pos _))

/-! ## What lies for a catcher -/

theorem capture_act_logged (r : Realm σ) (c : ContextId) (level : LogLevel) (message : String)
    (fields : List (String × String)) :
    (r.act (.logged c level message fields)).capture = r.capture := by
  obtain ⟨journal, hlog⟩ := r.log_eq_or c level message fields
  rw [act, hlog]

theorem capture_act_caught (r : Realm σ) (c : ContextId) (payload : Payload) :
    (r.act (.caught c payload)).capture = r.settled.capture := by
  obtain ⟨journal, hlog⟩ := r.settled.log_eq_or c .error "recovered from panic"
    [("panicError", payload.message), ("stackTrace", Text.truncate traceLimit r.shownTrace)]
  rw [act, reportPanic_eq_log, hlog]

theorem act_raised (h : 0 < r.capture.depth) (payload : Payload) :
    r.act (.raised payload) = { r with
      capture := { r.capture with trace := some r.nextTrace, taken := r.capture.taken + 1 } } := by
  rw [act, raise, if_pos h, nextTrace]

theorem act_paused (h : 0 < r.capture.depth) :
    r.act .paused = { r with capture := { r.capture with trace := none } } := by
  rw [act, suspend, if_pos h]

theorem traces_act (r : Realm σ) (move : Move) :
    (r.act move).capture.traces = r.capture.traces := by
  cases move with
  | wrote c change | resumed payload | entered | left => rfl
  | logged c level message fields => rw [capture_act_logged]
  | raised payload =>
    rw [act]
    unfold raise
    dsimp only
    split <;> rfl
  | paused =>
    rw [act]
    unfold suspend
    split <;> rfl
  | caught c payload =>
    rw [capture_act_caught, settled]
    split <;> rfl

theorem traces_moved (r : Realm σ) (moves : List Move) :
    (r.moved moves).capture.traces = r.capture.traces := by
  induction moves generalizing r with
  | nil => rfl
  | cons move moves ih => rw [moved_cons, ih, traces_act]

theorem taken_act_le (r : Realm σ) (move : Move) :
    r.capture.taken ≤ (r.act move).capture.taken := by
  cases move with
  | wrote c change | resumed payload | entered | left => exact Nat.le_refl _
  | logged c level message fields => exact Nat.le_of_eq (by rw [capture_act_logged])
  | raised payload =>
    rw [act]
    unfold raise
    dsimp only
    split
    · exact Nat.le_succ _
    · exact Nat.le_refl _
  | paused =>
    rw [act]
    unfold suspend
    split <;> exact Nat.le_refl _
  | caught c payload =>
    rw [capture_act_caught, settled]
    split
    · exact Nat.le_refl _
    · exact Nat.le_succ _

theorem taken_moved_le (r : Realm σ) (moves : List Move) :
    r.capture.taken ≤ (r.moved moves).capture.taken := by
  induction moves generalizing r with
  | nil => exact Nat.le_refl _
  | cons move moves ih => exact Nat.le_trans (taken_act_le r move) (ih (r.act move))

/-- A panic that is raised takes the next trace, and leaves it. -/
theorem taken_lt_of_raised (h : r.Encloses (before ++ .raised payload :: moves)) :
    (r.moved before).capture.taken <
      (r.moved (before ++ .raised payload :: moves)).capture.taken := by
  have hdepth := (encloses_append.1 h).2.1 trivial
  have hraised : ((r.moved before).act (.raised payload)).capture.taken =
      (r.moved before).capture.taken + 1 := by
    rw [act_raised hdepth]
  have hle := taken_moved_le ((r.moved before).act (.raised payload)) moves
  rw [moved_append, moved_cons]
  omega

theorem trace_act_of_keeps (r : Realm σ) (h : move.Keeps) :
    (r.act move).capture.trace = r.capture.trace := by
  cases move with
  | wrote c change | resumed payload | left => rfl
  | logged c level message fields => rw [capture_act_logged]
  | raised payload | paused | entered | caught c payload => exact h.elim

theorem trace_moved_of_keeps (r : Realm σ) (h : ∀ move ∈ moves, move.Keeps) :
    (r.moved moves).capture.trace = r.capture.trace := by
  induction moves generalizing r with
  | nil => rfl
  | cons move moves ih =>
    rw [List.forall_mem_cons] at h
    rw [moved_cons, ih _ h.2, trace_act_of_keeps r h.1]

/-- What lies for a catcher is the trace that the panic took. -/
theorem trace_of_lies (h : r.Encloses moves) (hlies : Move.Lies before payload moves) :
    (r.moved moves).capture.trace = some (r.moved before).nextTrace := by
  obtain ⟨since, rfl, hkeeps⟩ := hlies
  have hdepth := (encloses_append.1 h).2.1 trivial
  rw [moved_append, moved_cons, trace_moved_of_keeps _ hkeeps, act_raised hdepth]

/-- Nothing lies for a catcher once one was entered and no panic was raised since. -/
theorem trace_of_not_lies (h : r.Encloses moves)
    (hnot : ∀ before payload, ¬Move.Lies before payload moves)
    (hmove : ∃ move ∈ moves, ¬move.Keeps) : (r.moved moves).capture.trace = none := by
  induction moves using List.reverseRecOn with
  | nil =>
    obtain ⟨move, hmem, -⟩ := hmove
    cases hmem
  | append_singleton moves move ih =>
    obtain ⟨hmoves, hminds, -⟩ := encloses_append.1 h
    rw [moved_append, moved_cons, moved_nil]
    by_cases hkeeps : move.Keeps
    · rw [trace_act_of_keeps _ hkeeps]
      refine ih hmoves (fun before payload hlies => ?_) ?_
      · obtain ⟨since, rfl, hsince⟩ := hlies
        refine hnot before payload ⟨since ++ [move], by simp, ?_⟩
        simp only [List.forall_mem_append, List.forall_mem_singleton]
        exact ⟨hsince, hkeeps⟩
      · obtain ⟨other, hmem, hother⟩ := hmove
        obtain hmem | hmem := List.mem_append.1 hmem
        · exact ⟨other, hmem, hother⟩
        · exact absurd (List.mem_singleton.1 hmem ▸ hkeeps) hother
    · cases move with
      | wrote c change | logged c level message fields | resumed payload | left =>
        exact absurd trivial hkeeps
      | raised payload => exact absurd ⟨[], rfl, fun _ hmem => nomatch hmem⟩ (hnot moves payload)
      | paused => rw [act_paused (hminds trivial)]
      | entered => rfl
      | caught c payload =>
        rw [capture_act_caught, settled]
        split
        · rfl
        · next hnone => exact hnone

/-! ## The trace that is shown -/

/-- Every caught panic is logged with the trace that it took when it was raised, or with one that is
taken as it is logged. -/
def ShowsOwn (r : Realm σ) (moves : List Move) : Prop :=
  ∀ before c payload after, moves = before ++ .caught c payload :: after →
    (∃ start since, before = start ++ .raised payload :: since ∧
      (r.moved before).shownTrace = (r.moved start).nextTrace) ∨
    (r.moved before).shownTrace = (r.moved before).nextTrace

theorem shownTrace_of_lies (h : r.Encloses moves) (hlies : Move.Lies before payload moves) :
    (r.moved moves).shownTrace = (r.moved before).nextTrace := by
  rw [Realm.shownTrace, trace_of_lies h hlies, Option.getD_some]

/-- No two panics take one trace, so the trace tells which panic took it. -/
theorem payload_eq_of_nextTrace {start since since' : List Move} {payload' : Payload}
    (hinj : Function.Injective r.capture.traces)
    (h : r.Encloses (before ++ .raised payload :: since))
    (heq : before ++ .raised payload :: since = start ++ .raised payload' :: since')
    (htrace : (r.moved before).nextTrace = (r.moved start).nextTrace) : payload = payload' := by
  have htaken : (r.moved before).capture.taken = (r.moved start).capture.taken := by
    rw [nextTrace, nextTrace, traces_moved, traces_moved] at htrace
    exact hinj htrace
  obtain ⟨rest, rfl, -⟩ | ⟨rest, rfl, hrest⟩ := List.split_of_append heq
  · have hlt := taken_lt_of_raised (encloses_append.1 h).1
    omega
  · cases rest with
    | nil =>
      cases hrest
      rfl
    | cons move rest =>
      cases hrest
      rw [heq] at h
      have hlt := taken_lt_of_raised (encloses_append.1 h).1
      omega

/-- **Traces told apart.** Running work under a catch is doing its moves, and each caught panic is
logged with the trace that is shown there. A panic that was raised is logged with its own. A panic
that was resumed is logged with the trace of whatever panic was swallowed last, unless a catch was
entered, the work was suspended or a panic was logged since; then with one taken at the catch. So
every panic is logged with its own trace or with one taken at the catch exactly if no panic is
resumed and caught while the trace of one with another payload lies there. -/
theorem traces_shown (b : Body) (c : ContextId) (r : Realm σ)
    (hinj : Function.Injective r.capture.traces) :
    r.contain c b.run = (.returned b.verdict.toOption, r.moved (b.movesUnder c)) ∧
    (∀ before d payload after, b.movesUnder c = before ++ .caught d payload :: after →
      (r.moved before).act (.caught d payload) =
        (r.moved before).settled.log d .error "recovered from panic"
          [("panicError", payload.message),
            ("stackTrace", Text.truncate traceLimit (r.moved before).shownTrace)] ∧
      ((∃ start, before = start ++ [.raised payload, .left] ∧
          (r.moved before).shownTrace = (r.moved start).nextTrace) ∨
        ∃ start, before = start ++ [.resumed payload, .left]) ∧
      (∀ start swallowed, Move.Lies start swallowed before →
        (r.moved before).shownTrace = (r.moved start).nextTrace) ∧
      ((∀ start swallowed, ¬Move.Lies start swallowed before) →
        (r.moved before).shownTrace = (r.moved before).nextTrace)) ∧
    (r.ShowsOwn (b.movesUnder c) ↔
      ∀ before d payload after, b.movesUnder c = before ++ .caught d payload :: after →
        ∀ start swallowed, Move.Lies start swallowed before → swallowed = payload) := by
  have hencloses := encloses_movesUnder b c r
  have hlies : ∀ {before d payload after}, b.movesUnder c = before ++ .caught d payload :: after →
      ∀ start swallowed, Move.Lies start swallowed before →
        (r.moved before).shownTrace = (r.moved start).nextTrace :=
    fun heq start swallowed h => shownTrace_of_lies (encloses_append.1 (heq ▸ hencloses)).1 h
  have hnot : ∀ {before d payload after}, b.movesUnder c = before ++ .caught d payload :: after →
      (∀ start swallowed, ¬Move.Lies start swallowed before) →
        (r.moved before).shownTrace = (r.moved before).nextTrace := by
    intro before d payload after heq hnone
    -- a catch was entered before anything was caught
    have hentered : Move.entered ∈ before := by
      cases before with
      | nil => cases heq
      | cons move before =>
        obtain ⟨rfl, -⟩ := List.cons.inj heq
        exact List.mem_cons_self
    rw [shownTrace, trace_of_not_lies (encloses_append.1 (heq ▸ hencloses)).1 hnone
      ⟨_, hentered, id⟩, Option.getD_none]
  refine ⟨contain_of_run c (b.run_moves _), fun before d payload after heq =>
    ⟨reportPanic_eq_log .., ?_, hlies heq, hnot heq⟩, fun hown => ?_, fun hall => ?_⟩
  · obtain ⟨start, rfl | rfl⟩ := b.catchesTold_movesUnder c heq
    · refine .inl ⟨start, rfl, hlies heq start payload ⟨[.left], rfl, fun move hmove => ?_⟩⟩
      cases List.mem_singleton.1 hmove
      trivial
    · exact .inr ⟨start, rfl⟩
  · intro before d payload after heq start swallowed hswallowed
    have hbefore := (encloses_append.1 (heq ▸ hencloses)).1
    have hshown := hlies heq start swallowed hswallowed
    obtain ⟨since, rfl, -⟩ := hswallowed
    obtain ⟨start', since', hsplit, hstart'⟩ | hfresh := hown _ d payload after heq
    · exact payload_eq_of_nextTrace hinj hbefore hsplit (hshown.symm.trans hstart')
    · have hlt := taken_lt_of_raised hbefore
      rw [hshown, nextTrace, nextTrace, traces_moved, traces_moved] at hfresh
      exact absurd (hinj hfresh) (Nat.ne_of_lt hlt)
  · intro before d payload after heq
    by_cases hnone : ∀ start swallowed, ¬Move.Lies start swallowed before
    · exact .inr (hnot heq hnone)
    · push Not at hnone
      obtain ⟨start, swallowed, hswallowed⟩ := hnone
      obtain rfl := hall before d payload after heq start swallowed hswallowed
      obtain ⟨since, hsplit, -⟩ := id hswallowed
      exact .inl ⟨start, since, hsplit, hlies heq start _ hswallowed⟩

/-- A root in a process whose traces differ from one another. -/
def watched : Realm Unit :=
  ((Realm.start (.startingAt 0) (fun _ => 0) (fun n => String.ofList (.replicate (n + 1) 'x'))
    ()).addRoot .console).2

/-- Work that swallows a panic and ends by resuming another. -/
def relapse : Body := .swallowing (.panic (.text "inner")) (.resume (.text "outer"))

theorem traces_shown_relapse :
    Function.Injective watched.capture.traces ∧ ¬watched.ShowsOwn (relapse.movesUnder 0) := by
  have hinj : Function.Injective watched.capture.traces := by
    intro m n h
    have hlength : (String.ofList (.replicate (m + 1) 'x')).length =
        (String.ofList (.replicate (n + 1) 'x')).length := congrArg String.length h
    simpa using hlength
  refine ⟨hinj, fun hown => ?_⟩
  have hall := (traces_shown relapse 0 watched hinj).2.2.1 hown
    [.entered, .raised (.text "inner"), .resumed (.text "outer"), .left] 0 (.text "outer") [] rfl
  have hlies : Move.Lies [.entered] (.text "inner")
      [.entered, .raised (.text "inner"), .resumed (.text "outer"), .left] :=
    ⟨[.resumed (.text "outer"), .left], rfl, by simp [Move.Keeps]⟩
  exact absurd (hall _ _ hlies) (by decide)

/-- The panic that was resumed is logged with the trace that the swallowed one left. -/
theorem trace_of_swallowed :
    (watched.enter.raise (.text "inner")).capture.trace = some "x" ∧
      ∃ record, (watched.contain 0 relapse.run).2.journal = #[(.console, record)] ∧
        record.field? "panicError" = some "outer" ∧ record.field? "stackTrace" = some "x" ∧
        (watched.contain 0 relapse.run).2.capture.taken = 1 :=
  ⟨by decide +kernel, _, rfl, by decide +kernel, by decide +kernel, rfl⟩

end Realm
end EventRelay
