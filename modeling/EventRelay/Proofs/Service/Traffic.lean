import EventRelay.Proofs.Dedup.Holdings
import EventRelay.Proofs.Service.Suppression
import EventRelay.Proofs.Service.Turns

/-!
# Events at the same time

Any number of events are handled at the same time and take their turns in any order; between two
turns clocks may move and anything may happen downstream. This module follows the cache and the
single event through such a run.

* `Traffic`: a run by its turns. `Interleaved`: its turns are those of a service.
* `Checks`, `Settles`: the turns that ask the cache, and those that deal with what a delivery
  brought back.
* `Interleaved.led`: the turns lead the cache through checks and forgettings.
* `Interleaved.delivery_unique`: an event asks once, settles once and has one delivery.
* `Interleaved.delivery_of_settles`, `Interleaved.exists_delivery`: what settles was let through
  before; what was let through settles before it is answered.
* `Interleaved.duplicate_answer`, `Interleaved.checks_of_answering`: what is a duplicate, and
  nothing else, is answered as one.
-/

namespace EventRelay

variable {σ : Type}

/-- An event that is sent in: the context of its request, if there is one, and the request. -/
structure Post where
  parent : Option ContextId
  request : Http.Request

/-- A run by its turns: whose turn it is, in which realm it is taken, and where every event stands
before it. -/
structure Traffic (σ : Type) where
  who : Nat → Nat
  start : Nat → Realm σ
  stage : Nat → Nat → Stage

namespace Traffic

/-- What the `k`-th turn comes to. -/
def taken (service : Service σ) (posts : Nat → Post) (run : Traffic σ) (k : Nat) :
    Stage × Realm σ :=
  service.turn (posts (run.who k)).parent (posts (run.who k)).request (run.stage k (run.who k))
    (run.start k)

/-- In the `k`-th turn an event asks whether a payload is a duplicate, and is told. -/
def Checks (run : Traffic σ) (k i : Nat) (payload : ByteArray) (duplicate : Bool) : Prop :=
  run.who k = i ∧ ∃ arrival, run.stage k i = .asking arrival payload ∧
    ((run.start k).isDuplicate arrival.span payload).1 = duplicate

/-- In the `k`-th turn an event deals with the last exchange of its delivery. -/
def Settles (run : Traffic σ) (k i : Nat) (payload : ByteArray) (x : Exchange) : Prop :=
  run.who k = i ∧ ∃ arrival, run.stage k i = .settling arrival payload x

/-- In the first `n` turns an event is let through, and what its delivery brought back is dealt with
later. -/
structure Delivery (run : Traffic σ) (n j f i : Nat) (payload : ByteArray) (x : Exchange) :
    Prop where
  accepted : run.Checks j i payload false
  settled : run.Settles f i payload x
  lt : j < f
  lt_n : f < n

/-- What the `k`-th turn means for the cache. -/
def event (run : Traffic σ) (k : Nat) : Option DuplicateCache.Event :=
  match run.stage k (run.who k) with
  | .asking arrival payload => some (.checked (digestOf payload) (run.start k).clock.wall
      ((run.start k).isDuplicate arrival.span payload).1)
  | .settling _ payload x => if x.isRetryable then some (.forgot (digestOf payload)) else none
  | _ => none

/-- The cache before the `k`-th turn, as the turns before it leave it. -/
def cacheBefore (service : Service σ) (posts : Nat → Post) (window : DuplicateWindow)
    (run : Traffic σ) : Nat → DuplicateCache
  | 0 => .ofWindow window
  | k + 1 => (run.taken service posts k).2.checker.getD (.ofWindow window)

variable {run : Traffic σ} {k : Nat} {d : String}

theorem event_eq_checked_iff {t : UInt64} {duplicate : Bool} :
    run.event k = some (.checked d t duplicate) ↔ ∃ i payload, run.Checks k i payload duplicate ∧
      digestOf payload = d ∧ (run.start k).clock.wall = t := by
  constructor
  · intro h
    unfold event at h
    split at h
    · next arrival payload hstage =>
      obtain ⟨rfl, rfl, rfl⟩ := DuplicateCache.Event.checked.inj (Option.some.inj h)
      exact ⟨_, payload, ⟨rfl, arrival, hstage, rfl⟩, rfl, rfl⟩
    · split at h <;> cases h
    · cases h
  · rintro ⟨i, payload, ⟨rfl, arrival, hstage, rfl⟩, rfl, rfl⟩
    simp only [event, hstage]

theorem event_eq_forgot_iff : run.event k = some (.forgot d) ↔
    ∃ i payload x, run.Settles k i payload x ∧ x.isRetryable = true ∧ digestOf payload = d := by
  constructor
  · intro h
    unfold event at h
    split at h
    · cases h
    · next arrival payload x hstage =>
      split at h
      · next hretry =>
        cases h
        exact ⟨_, payload, x, ⟨rfl, arrival, hstage⟩, hretry, rfl⟩
      · cases h
    · cases h
  · rintro ⟨i, payload, x, ⟨rfl, arrival, hstage⟩, hretry, rfl⟩
    simp only [event, hstage, hretry, ↓reduceIte]

/-- What a turn does to the cache. -/
theorem leads_taken {service : Service σ} {posts : Nat → Post} {window : DuplicateWindow}
    (ht : Transport.Retains service.transport)
    (hcache : (run.start k).checker = some (run.cacheBefore service posts window k))
    (hknows : (run.stage k (run.who k)).Knows (run.start k)) :
    (run.taken service posts k).2.checker =
        some (run.cacheBefore service posts window (k + 1)) ∧
      DuplicateCache.Event.Leads (run.cacheBefore service posts window k)
        (run.cacheBefore service posts window (k + 1)) (run.event k) := by
  rw [cacheBefore]
  unfold taken event
  generalize run.stage k (run.who k) = stage at hknows ⊢
  -- Only a question and a settlement can touch the cache; all other stages go together.
  by_cases hask : ∃ arrival payload, stage = .asking arrival payload
  · obtain ⟨arrival, payload, rfl⟩ := hask
    obtain ⟨hanswer, hafter⟩ := Service.checker_turn_asking ht hcache (hknows arrival rfl).2
    rw [hafter]
    refine ⟨rfl, ?_⟩
    dsimp only
    rw [hanswer]
    rfl
  · by_cases hsettle : ∃ arrival payload x, stage = .settling arrival payload x
    · obtain ⟨arrival, payload, x, rfl⟩ := hsettle
      rw [Service.checker_turn_settling hcache (hknows arrival rfl).2]
      refine ⟨rfl, ?_⟩
      cases hretry : x.isRetryable with
      | true => simp only [hretry, ↓reduceIte]; rfl
      | false => simp only [hretry, Bool.false_eq_true, ↓reduceIte]; rfl
    · have hkeeps : Realm.Retains (run.start k) (service.turn (posts (run.who k)).parent
          (posts (run.who k)).request stage (run.start k)).2 :=
        Service.turn_retains ht (run.start k)
          (fun arrival payload he => hask ⟨arrival, payload, he⟩)
          (fun arrival payload x he => hsettle ⟨arrival, payload, x, he⟩)
      rw [hkeeps.checker_eq, hcache]
      refine ⟨rfl, ?_⟩
      cases stage with
      | asking arrival payload => exact absurd ⟨arrival, payload, rfl⟩ hask
      | settling arrival payload x => exact absurd ⟨arrival, payload, x, rfl⟩ hsettle
      | _ => rfl

end Traffic

open Traffic

/-- The first `n` turns are taken by events that are sent in to a service, beginning in a realm.
What happens before and between them loses no context and leaves the duplicate cache alone. -/
structure Interleaved (service : Service σ) (posts : Nat → Post) (r : Realm σ) (n : Nat)
    (run : Traffic σ) : Prop where
  arriving : ∀ i, run.stage 0 i = .arriving
  first : 0 < n → Realm.Retains r (run.start 0)
  next : ∀ k, k + 1 < n → Realm.Retains (run.taken service posts k).2 (run.start (k + 1))
  moves : ∀ k < n, run.stage (k + 1) (run.who k) = (run.taken service posts k).1
  stays : ∀ k < n, ∀ i, i ≠ run.who k → run.stage (k + 1) i = run.stage k i

theorem Service.opened_of_window {service : Service σ} {window : DuplicateWindow}
    (h : DuplicateWindow.ofSettings service.home.settings = some window) (r : Realm σ) :
    service.opened r = r.useChecker service.home.root (.ofWindow window) := by
  rw [opened, h]

theorem Service.opened_of_none {service : Service σ}
    (h : DuplicateWindow.ofSettings service.home.settings = none) (r : Realm σ) :
    service.opened r = r := by
  rw [opened, h]

theorem Stage.Knows.extends {stage : Stage} {r r' : Realm σ} (h : stage.Knows r)
    (hr : Realm.Extends r r') : stage.Knows r' := by
  intro arrival harrival
  obtain ⟨hlt, hknows⟩ := h arrival harrival
  exact ⟨Nat.lt_of_lt_of_le hlt hr.size_le, (hr.hasChecker_eq _ hlt).trans hknows⟩

namespace Interleaved

variable {service : Service σ} {posts : Nat → Post} {window : DuplicateWindow} {r : Realm σ}
  {n : Nat} {run : Traffic σ} {i j k m : Nat} {payload : ByteArray}

/-! ## The cache -/

section Cache

variable (h : Interleaved service posts r n run) (ht : Transport.Retains service.transport)
include h ht

theorem extends_start (hk : k < n) : Realm.Extends r (run.start k) := by
  induction k with
  | zero => exact (h.first hk).toExtends
  | succ k ih =>
    exact (ih (Nat.lt_of_succ_lt hk)).trans
      ((Service.turn_extends ht _ _).trans (h.next k hk).toExtends)

/-- Without a cache in the beginning there is none all along. -/
theorem checker_start_of_none (hnone : r.checker = none) (hk : k < n) :
    (run.start k).checker = none := by
  induction k with
  | zero => exact (h.first hk).checker_eq.trans hnone
  | succ k ih =>
    have htaken : (run.taken service posts k).2.checker = none :=
      Service.checker_turn_of_none ht (ih (Nat.lt_of_succ_lt hk))
    exact (h.next k hk).checker_eq.trans htaken

/-- Events that come in under contexts that know of the cache know of it all along. -/
theorem knows (hparent : ∀ k < n, run.stage k (run.who k) = .arriving →
      ((run.start k).context ((posts (run.who k)).parent.getD service.home.root)).hasChecker = true)
    (hk : k < n) (i : Nat) : (run.stage k i).Knows (run.start k) := by
  induction k generalizing i with
  | zero =>
    intro arrival harrival
    rw [h.arriving i] at harrival
    cases harrival
  | succ k ih =>
    have hlt := Nat.lt_of_succ_lt hk
    by_cases hi : i = run.who k
    · subst hi
      rw [h.moves k hlt]
      exact (Service.turn_knows ht _ _ (hparent k hlt) (ih hlt _)).extends (h.next k hk).toExtends
    · rw [h.stays k hlt i hi]
      exact (ih hlt i).extends ((Service.turn_extends ht _ _).trans (h.next k hk).toExtends)

/-- **The cache.** The turns lead the cache, which is empty at first, through their checks and
forgettings. -/
theorem led (hcache : r.checker = some (.ofWindow window)) (hknows : ∀ k < n,
      (run.stage k (run.who k)).Knows (run.start k)) :
    DuplicateCache.Led (DuplicateCache.ofWindow window).windowMs window.capacity.toNat n run.event
      (run.cacheBefore service posts window) := by
  -- A turn begins with the cache that the one before left: nothing in between touches it.
  have hstart : ∀ k < n, (run.start k).checker = some (run.cacheBefore service posts window k) := by
    intro k
    induction k with
    | zero => exact fun hk => (h.first hk).checker_eq.trans hcache
    | succ k ih =>
      intro hk
      have hlt := Nat.lt_of_succ_lt hk
      exact (h.next k hk).checker_eq.trans (leads_taken ht (ih hlt) (hknows k hlt)).1
  exact ⟨rfl, fun k hk => (leads_taken ht (hstart k hk) (hknows k hk)).2⟩

end Cache

/-- A service that opens with a cache leads it so, with the window of the settings. -/
theorem led_of_settings (hwindow : DuplicateWindow.ofSettings service.home.settings = some window)
    (ht : Transport.Retains service.transport) (hroot : service.home.root < r.contexts.size)
    (h : Interleaved service posts (service.opened r) n run)
    (hparent : ∀ k < n, run.stage k (run.who k) = .arriving → ∀ c,
      (posts (run.who k)).parent = some c → ((run.start k).context c).hasChecker = true) :
    DuplicateCache.Led service.home.settings.duplicateTimeout window.capacity.toNat n run.event
      (run.cacheBefore service posts window) := by
  obtain ⟨hlt, hknows, hcache⟩ := r.useChecker_eq hroot (.ofWindow window)
  rw [Service.opened_of_window hwindow] at h
  have hall : ∀ k < n, run.stage k (run.who k) = .arriving →
      ((run.start k).context ((posts (run.who k)).parent.getD service.home.root)).hasChecker =
        true := by
    intro k hk harriving
    cases hp : (posts (run.who k)).parent with
    | none => exact ((h.extends_start ht hk).hasChecker_eq _ hlt).trans hknows
    | some c => exact hparent k hk harriving c hp
  rw [← (Service.ofWindow_eq hwindow).1]
  exact h.led ht hcache fun k hk => h.knows ht hall hk (run.who k)

/-- Only a service with a window tells duplicates. -/
theorem window_of_duplicate (h : Interleaved service posts (service.opened r) n run)
    (ht : Transport.Retains service.transport) (hnone : r.checker = none) (hk : k < n)
    (hduplicate : run.Checks k i payload true) :
    ∃ window, DuplicateWindow.ofSettings service.home.settings = some window := by
  cases hwindow : DuplicateWindow.ofSettings service.home.settings with
  | some window => exact ⟨window, rfl⟩
  | none =>
    rw [Service.opened_of_none hwindow] at h
    obtain ⟨-, arrival, -, hhit⟩ := hduplicate
    rw [Realm.isDuplicate_of_none _ (h.checker_start_of_none ht hnone hk)] at hhit
    cases hhit

/-! ## The single event -/

section Event

variable (h : Interleaved service posts r n run)
include h

/-- An event moves by a turn of its own, and stays where it is in the turns of others. -/
theorem next_stage (hk : k < n) (i : Nat) :
    (run.who k = i ∧ service.Next (posts i).request (run.start k) (run.stage k i)
        (run.stage (k + 1) i)) ∨
      (run.who k ≠ i ∧ run.stage (k + 1) i = run.stage k i) := by
  by_cases hi : run.who k = i
  · subst hi
    refine .inl ⟨rfl, ?_⟩
    rw [h.moves k hk]
    exact service.next_turn ..
  · exact .inr ⟨hi, h.stays k hk i fun he => hi he.symm⟩

/-- An event does not go back. -/
theorem rank_le (hjk : j ≤ k) (hk : k ≤ n) (i : Nat) :
    (run.stage j i).rank ≤ (run.stage k i).rank := by
  induction k, hjk using Nat.le_induction with
  | base => exact Nat.le_refl _
  | succ k hjk ih =>
    refine Nat.le_trans (ih (Nat.le_of_succ_le hk)) ?_
    obtain ⟨-, hnext⟩ | ⟨-, hstay⟩ := h.next_stage hk i
    · exact hnext.rank_le
    · rw [hstay]

/-- A stage that an event leaves for good by a turn of its own is left once. -/
theorem turn_unique (rank : Nat)
    (hleaves : ∀ k < n, run.who k = i → (run.stage k i).rank = rank →
      rank < (run.stage (k + 1) i).rank)
    (hj : j < n) (hk : k < n) (hwj : run.who j = i) (hwk : run.who k = i)
    (hrj : (run.stage j i).rank = rank) (hrk : (run.stage k i).rank = rank) : j = k := by
  -- The rank has grown by the later turn, and an event does not go back.
  obtain hlt | heq | hlt := Nat.lt_trichotomy j k
  · have hleft := hleaves j hj hwj hrj
    have hlater := h.rank_le (show j + 1 ≤ k from hlt) (Nat.le_of_lt hk) i
    omega
  · exact heq
  · have hleft := hleaves k hk hwk hrk
    have hlater := h.rank_le (show k + 1 ≤ j from hlt) (Nat.le_of_lt hj) i
    omega

/-- An event asks once. -/
theorem checks_unique (hj : j < n) (hk : k < n) {before : ByteArray} {duplicate duplicate' : Bool}
    (hbefore : run.Checks j i before duplicate) (hafter : run.Checks k i payload duplicate') :
    j = k := by
  obtain ⟨hwj, arrival, hsj, -⟩ := hbefore
  obtain ⟨hwk, arrival', hsk, -⟩ := hafter
  refine h.turn_unique 1 (fun m hm hw hrank => ?_) hj hk hwj hwk (by rw [hsj]; rfl)
    (by rw [hsk]; rfl)
  obtain ⟨-, hnext⟩ | ⟨hne, -⟩ := h.next_stage hm i
  · cases hs : run.stage m i with
    | asking arrival payload =>
      rw [hs] at hnext
      exact hnext.rank_lt_of_asking
    | _ =>
      rw [hs] at hrank
      cases hrank
  · exact absurd hw hne

/-- An event settles once. -/
theorem settles_unique (hj : j < n) (hk : k < n) {before : ByteArray} {x y : Exchange}
    (hbefore : run.Settles j i before x) (hafter : run.Settles k i payload y) : j = k := by
  obtain ⟨hwj, arrival, hsj⟩ := hbefore
  obtain ⟨hwk, arrival', hsk⟩ := hafter
  refine h.turn_unique 3 (fun m hm hw hrank => ?_) hj hk hwj hwk (by rw [hsj]; rfl)
    (by rw [hsk]; rfl)
  obtain ⟨-, hnext⟩ | ⟨hne, -⟩ := h.next_stage hm i
  · cases hs : run.stage m i with
    | settling arrival payload x =>
      rw [hs] at hnext
      exact hnext.rank_lt_of_settling
    | _ =>
      rw [hs] at hrank
      cases hrank
  · exact absurd hw hne

/-- An event has one delivery. -/
theorem delivery_unique {f g : Nat} {before : ByteArray} {x y : Exchange}
    (hf : run.Delivery n j f i before x) (hg : run.Delivery n k g i payload y) :
    j = k ∧ f = g ∧ x = y := by
  obtain rfl := h.checks_unique (Nat.lt_trans hf.lt hf.lt_n) (Nat.lt_trans hg.lt hg.lt_n)
    hf.accepted hg.accepted
  obtain rfl := h.settles_unique hf.lt_n hg.lt_n hf.settled hg.settled
  obtain ⟨-, arrival, hx⟩ := hf.settled
  obtain ⟨-, arrival', hy⟩ := hg.settled
  rw [hx] at hy
  exact ⟨rfl, rfl, (Stage.settling.inj hy).2.2⟩

/-- An event asks about its own payload. -/
theorem asked?_eq (hk : k ≤ n) {arrival : Arrival}
    (hstage : run.stage k i = .asking arrival payload) :
    service.asked? (posts i).request = some payload := by
  induction k with
  | zero =>
    rw [h.arriving i] at hstage
    cases hstage
  | succ k ih =>
    obtain ⟨-, hnext⟩ | ⟨-, hstay⟩ := h.next_stage hk i
    · rw [hstage] at hnext
      exact hnext.asked?_eq
    · exact ih (Nat.le_of_succ_le hk) (hstay.symm.trans hstage)

/-- What is in flight was let through. -/
theorem exists_checks (hk : k ≤ n) (hflight : (run.stage k i).inFlight? = some payload) :
    ∃ j < k, run.Checks j i payload false := by
  induction k with
  | zero =>
    rw [h.arriving i] at hflight
    cases hflight
  | succ k ih =>
    have hearlier : (run.stage k i).inFlight? = some payload →
        ∃ j < k + 1, run.Checks j i payload false := fun hf =>
      (ih (Nat.le_of_succ_le hk) hf).imp fun _ hj => ⟨Nat.lt_succ_of_lt hj.1, hj.2⟩
    obtain ⟨hwho, hnext⟩ | ⟨-, hstay⟩ := h.next_stage hk i
    · obtain hf | ⟨arrival, hasking, hmiss⟩ := hnext.inFlight_of hflight
      · exact hearlier hf
      · exact ⟨k, Nat.lt_succ_self k, hwho, arrival, hasking, hmiss⟩
    · exact hearlier (hstay ▸ hflight)

/-- What settles was let through. -/
theorem delivery_of_settles {f : Nat} {x : Exchange} (hf : f < n)
    (hsettles : run.Settles f i payload x) : ∃ j, run.Delivery n j f i payload x := by
  obtain ⟨arrival, hstage⟩ := hsettles.2
  have hflight : (run.stage f i).inFlight? = some payload := by
    rw [hstage]
    rfl
  obtain ⟨j, hjf, haccepted⟩ := h.exists_checks (Nat.le_of_lt hf) hflight
  exact ⟨j, haccepted, hsettles, hjf, hf⟩

/-- What is let through is in flight, until it settles or ends without an answer. -/
theorem inFlight_or_settled (hjk : j < k) (hk : k ≤ n)
    (haccepted : run.Checks j i payload false) :
    (run.stage k i).inFlight? = some payload ∨
      (∃ f x, j < f ∧ f < k ∧ run.Settles f i payload x) ∨
      ∃ outcome, run.stage k i = .ended outcome ∧ ∀ response, outcome ≠ .returned response := by
  -- On the turns since the question: each of the three outlasts the turns of others, and of the
  -- event's own turns only a settlement ends a flight with an answer to come.
  induction k, hjk using Nat.le_induction with
  | base =>
    obtain ⟨rfl, arrival, hstage, hmiss⟩ := haccepted
    obtain ⟨-, hnext⟩ | ⟨hne, -⟩ := h.next_stage hk (run.who j)
    · rw [hstage] at hnext
      exact .inl (hnext.inFlight?_of_asking hmiss)
    · exact absurd rfl hne
  | succ k hjk ih =>
    obtain hflight | ⟨f, x, hjf, hfk, hsettles⟩ | ⟨outcome, hended, hnone⟩ :=
      ih (Nat.le_of_succ_le hk)
    · obtain ⟨hwho, hnext⟩ | ⟨-, hstay⟩ := h.next_stage hk i
      · obtain hf | ⟨arrival, x, hsettling⟩ | hended := hnext.of_inFlight hflight
        · exact .inl hf
        · exact .inr (.inl ⟨k, x, hjk, Nat.lt_succ_self k, hwho, arrival, hsettling⟩)
        · exact .inr (.inr hended)
      · exact .inl (hstay ▸ hflight)
    · exact .inr (.inl ⟨f, x, hjf, Nat.lt_succ_of_lt hfk, hsettles⟩)
    · refine .inr (.inr ⟨outcome, ?_, hnone⟩)
      obtain ⟨-, hnext⟩ | ⟨-, hstay⟩ := h.next_stage hk i
      · rw [hended] at hnext
        generalize run.stage (k + 1) i = stage' at hnext ⊢
        cases hnext
        rfl
      · exact hstay.trans hended

/-- What is let through settles before it is answered. -/
theorem exists_delivery (hj : j < n) (haccepted : run.Checks j i payload false)
    {response : Http.Response} (hdone : (run.stage n i).response? = some response) :
    ∃ f x, run.Delivery n j f i payload x := by
  rw [Stage.response?_eq_some_iff] at hdone
  obtain hflight | ⟨f, x, hjf, hfn, hsettles⟩ | ⟨outcome, hended, hnone⟩ :=
    h.inFlight_or_settled hj (Nat.le_refl n) haccepted
  · rw [hdone] at hflight
    cases hflight
  · exact ⟨f, x, haccepted, hsettles, hjf, hfn⟩
  · rw [hdone] at hended
    exact absurd (Stage.ended.inj hended).symm (hnone response)

/-- What is answered as a duplicate was told to be one. -/
theorem checks_of_answering (hk : k ≤ n) {arrival : Arrival}
    (hstage : run.stage k i = .answering arrival .duplicate) :
    ∃ j payload, j < k ∧ run.Checks j i payload true := by
  induction k with
  | zero =>
    rw [h.arriving i] at hstage
    cases hstage
  | succ k ih =>
    obtain ⟨hwho, hnext⟩ | ⟨-, hstay⟩ := h.next_stage hk i
    · rw [hstage] at hnext
      obtain ⟨payload, hasking, hhit⟩ := hnext.asking_of_answering
      exact ⟨k, payload, Nat.lt_succ_self k, hwho, arrival, hasking, hhit⟩
    · obtain ⟨j, payload, hjk, hchecks⟩ := ih (Nat.le_of_succ_le hk) (hstay.symm.trans hstage)
      exact ⟨j, payload, Nat.lt_succ_of_lt hjk, hchecks⟩

/-- What is a duplicate is answered as one. -/
theorem duplicate_answer (hjk : j < k) (hk : k ≤ n) (hduplicate : run.Checks j i payload true) :
    (∃ arrival, run.stage k i = .answering arrival .duplicate) ∨
      ∃ response, (run.stage k i).response? = some response ∧ response.status = 200 ∧
        response.body = "\x7b\"status\":\"duplicate\"\x7d".toUTF8 := by
  have hbody : Verdict.duplicate.response.body =
      "\x7b\"status\":\"duplicate\"\x7d".toUTF8 := by decide +kernel
  induction k, hjk using Nat.le_induction with
  | base =>
    obtain ⟨rfl, arrival, hstage, hhit⟩ := hduplicate
    obtain ⟨-, hnext⟩ | ⟨hne, -⟩ := h.next_stage hk (run.who j)
    · rw [hstage] at hnext
      exact .inl ⟨arrival, hnext.answering_of_asking hhit⟩
    · exact absurd rfl hne
  | succ k hjk ih =>
    have ih := ih (Nat.le_of_succ_le hk)
    obtain ⟨-, hnext⟩ | ⟨-, hstay⟩ := h.next_stage hk i
    · generalize run.stage (k + 1) i = stage' at hnext ⊢
      obtain ⟨arrival, hstage⟩ | ⟨response, hstage, hstatus, hresponse⟩ := ih
      · rw [hstage] at hnext
        cases hnext with
        | answered hstatus hresponse =>
          exact .inr ⟨_, rfl, hstatus, hresponse.trans hbody⟩
      · rw [Stage.response?_eq_some_iff.1 hstage] at hnext
        cases hnext
        exact .inr ⟨response, rfl, hstatus, hresponse⟩
    · rw [hstay]
      exact ih

end Event

end Interleaved

/-! ## Runs in a given order -/

namespace Traffic

/-- The realm and the stages before a turn, when events take their turns in a given order; before
each turn but the first some time passes. -/
def turnsBefore (service : Service σ) (posts : Nat → Post) (who : Nat → Nat)
    (pause : Nat → Duration) (r : Realm σ) : Nat → Realm σ × (Nat → Stage)
  | 0 => (r, fun _ => .arriving)
  | k + 1 =>
    let (s, stages) := turnsBefore service posts who pause r k
    let (stage, s) := service.turn (posts (who k)).parent (posts (who k)).request (stages (who k)) s
    (s.advance (pause (k + 1)), fun i => if i = who k then stage else stages i)

/-- The run in which events take their turns in a given order. -/
def inOrder (service : Service σ) (posts : Nat → Post) (who : Nat → Nat) (pause : Nat → Duration)
    (r : Realm σ) : Traffic σ where
  who := who
  start k := (turnsBefore service posts who pause r k).1
  stage k := (turnsBefore service posts who pause r k).2

theorem interleaved_inOrder (service : Service σ) (posts : Nat → Post) (who : Nat → Nat)
    (pause : Nat → Duration) (r : Realm σ) (n : Nat) :
    Interleaved service posts r n (inOrder service posts who pause r) where
  arriving _ := rfl
  first _ := .refl r
  next _ _ := .of_eq rfl rfl
  moves _ _ := if_pos rfl
  stays _ _ _ hi := if_neg hi

/-- An event that has no turn does not arrive. -/
theorem stage_inOrder_of_absent {service : Service σ} {posts : Nat → Post} {who : Nat → Nat}
    {pause : Nat → Duration} {r : Realm σ} {n i : Nat} (hi : ∀ k < n, who k ≠ i) :
    (inOrder service posts who pause r).stage n i = .arriving := by
  induction n with
  | zero => rfl
  | succ n ih =>
    have hstay := (interleaved_inOrder service posts who pause r (n + 1)).stays n
      (Nat.lt_succ_self n) i fun he => hi n (Nat.lt_succ_self n) he.symm
    exact hstay.trans (ih fun k hk => hi k (Nat.lt_succ_of_lt hk))

/-- All that arrive are answered if those are that have a turn. -/
theorem answered_inOrder {service : Service σ} {posts : Nat → Post} {who : Nat → Nat}
    {pause : Nat → Duration} {r : Realm σ} {n m : Nat} (hwho : ∀ k < n, who k < m)
    (hsome : ∀ i < m, ((inOrder service posts who pause r).stage n i).response?.isSome = true)
    (i : Nat) : (inOrder service posts who pause r).stage n i = .arriving ∨
      ∃ response, ((inOrder service posts who pause r).stage n i).response? = some response := by
  obtain hi | hi := Nat.lt_or_ge i m
  · exact .inr (Option.isSome_iff_exists.1 (hsome i hi))
  · exact .inl (stage_inOrder_of_absent fun k hk =>
      Nat.ne_of_lt (Nat.lt_of_lt_of_le (hwho k hk) hi))

end Traffic

namespace Service

/-- One event that is sent in again and again. -/
def again : Nat → Post := fun _ => ⟨none, posted "p"⟩

theorem payload_of_again {r : Realm Script} {n k i : Nat} {run : Traffic Script}
    (h : Interleaved remembering again r n run) (hk : k < n) {payload : ByteArray}
    {duplicate : Bool} (hchecks : run.Checks k i payload duplicate) : payload = "p".toUTF8 := by
  obtain ⟨-, arrival, hstage, -⟩ := hchecks
  have hask : remembering.asked? (posted "p") = some payload := h.asked?_eq (Nat.le_of_lt hk) hstage
  rw [show remembering.asked? (posted "p") = some "p".toUTF8 by decide] at hask
  exact (Option.some.inj hask).symm

/-- A realm whose root has a transport; what lies downstream answers with the given exchanges. -/
def replying (exchanges : List Exchange) : Realm Script :=
  { accepting [] with downstream := .ofExchanges exchanges [] }

end Service
end EventRelay
