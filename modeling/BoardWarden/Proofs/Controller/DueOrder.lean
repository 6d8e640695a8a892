import Mathlib.Data.List.Perm.Subperm
import BoardWarden.Proofs.Controller.Inputs
import BoardWarden.Proofs.Controller.Poll

set_option autoImplicit false

/-!
The order in which a poll of the agenda runs what is due. An action may take time, and others fall
due meanwhile, so the actions that are run are those whose deadline has come by the end. They are run
in the order of their deadlines all the same: no action arms another, and what was not due at a look
has a later deadline than all that was.
-/

namespace BoardWarden

structure Served where
  action : DeferredAction
  deadline : Instant
  looked : Instant

variable {σ : Type} [Board σ]

/-- No wait for a rail would turn out otherwise if it had more turns. -/
def RailTiming.Settles (timing : RailTiming) (good : σ → Prop) : Prop :=
  ∀ (rail : RailId) (timeout : Span) (extra : Nat) (r : Rig σ), r.rails.timing = timing →
    good r.plant.board →
    let deadline := r.plant.now.after timeout
    let turns := deadline.micros - r.plant.now.micros
    Rig.awaitOn rail deadline (turns + extra) r = Rig.awaitOn rail deadline turns r

theorem KeepsTime.settles {good : σ → Prop} (clock : KeepsTime good) {timing : RailTiming}
    (counts : 1 ≤ timing.poll.micros) : timing.Settles good := by
  intro rail timeout extra r same fine deadline turns
  exact clock.awaitOn_settles rail deadline (Nat.min_le_right _ _) extra turns r fine
    (same ▸ counts) (Nat.le_refl _)

namespace Controller

/-- The loop of a poll: it looks at the clock, and either nothing is due and it stops, or it takes
the first of the armed actions, which is due, and runs it. -/
inductive Polls : Controller σ → List Served → Controller σ → Prop where
  | rests {c : Controller σ} (idle : ∀ action deadline, c.agenda.deadline? action = some deadline →
      c.now.micros < deadline.micros) : Polls c [] c
  | runs {c c' : Controller σ} {action : DeferredAction} {deadline : Instant} {later : List Served}
      (armed : c.agenda.deadline? action = some deadline) (due : deadline.micros ≤ c.now.micros)
      (first : ∀ other deadline', c.agenda.deadline? other = some deadline' → other ≠ action →
        Agenda.Before (action, deadline) (other, deadline'))
      (rest : Polls ({ c with agenda := c.agenda.set action none }.runAction action) later c') :
      Polls c (⟨action, deadline, c.now⟩ :: later) c'

theorem runDue_polls (count : Nat) (c : Controller σ) (enough : c.agenda.size ≤ count) :
    ∃ served, c.Polls served (runDue count c).2 ∧ ((runDue count c).1 = true ↔ served ≠ []) ∧
      ∀ extra, runDue (count + extra) c = runDue count c := by
  induction count generalizing c with
  | zero =>
    have unarmed : ∀ action, c.agenda.isPending action = false := fun action =>
      Bool.eq_false_iff.2 fun armed => by
        have fewer := c.agenda.size_set_none action armed
        omega
    have idle : ∀ action deadline, c.agenda.deadline? action = some deadline →
        c.now.micros < deadline.micros := fun action deadline armed => by
      have pending := unarmed action
      rw [Agenda.isPending, armed] at pending
      cases pending
    refine ⟨[], .rests idle, by simp [runDue], fun extra => ?_⟩
    cases extra with
    | zero => rfl
    | succ extra =>
      have none : c.agenda.takeExpired c.now = none := by
        refine Option.eq_none_iff_forall_ne_some.2 fun _ taken => ?_
        obtain ⟨_, deadline, armed, due⟩ := Agenda.takeExpired_spec _ _ _ _ taken
        exact absurd due (Nat.not_le.2 (idle _ deadline armed))
      rw [Nat.zero_add]
      simp only [runDue, none]
  | succ count ih =>
    cases found : c.agenda.takeExpired c.now with
    | none =>
      refine ⟨[], ?_, by simp [runDue, found], fun extra => ?_⟩
      · simp only [runDue, found]
        exact .rests fun action deadline armed => Agenda.takeExpired_none found armed
      · rw [Nat.succ_add]
        simp only [runDue, found]
    | some taken =>
      obtain ⟨action, agenda⟩ := taken
      obtain ⟨rfl, deadline, armed, due⟩ := Agenda.takeExpired_spec _ _ _ _ found
      let d : Controller σ := { c with agenda := c.agenda.set action none }
      have fewer : (d.runAction action).agenda.size + 1 = c.agenda.size := by
        rw [runAction_agenda]
        exact c.agenda.size_set_none action (by rw [Agenda.isPending, armed]; rfl)
      obtain ⟨later, rest, _, settled⟩ := ih (d.runAction action) (by omega)
      refine ⟨⟨action, deadline, c.now⟩ :: later, ?_, by simp [runDue, found], fun extra => ?_⟩
      · simp only [runDue, found]
        exact .runs armed due (fun _ _ => Agenda.takeExpired_before found armed) rest
      · rw [Nat.succ_add]
        simp only [runDue, found]
        rw [settled]

structure Orderly (c : Controller σ) (served : List Served) (c' : Controller σ) : Prop where
  entered : ∀ s ∈ served, c.agenda.deadline? s.action = some s.deadline
  once : (served.map Served.action).Nodup
  ordered : served.Pairwise fun s t => Agenda.Before (s.action, s.deadline) (t.action, t.deadline)
  due : ∀ s ∈ served, s.deadline.micros ≤ s.looked.micros
  looks : (c.now.micros :: (served.map (·.looked.micros) ++ [c'.now.micros])).Pairwise (· ≤ ·)
  served_iff : ∀ action deadline, c.agenda.deadline? action = some deadline →
    (action ∈ served.map Served.action ↔ deadline.micros ≤ c'.now.micros)
  left : ∀ action, c'.agenda.deadline? action =
    if action ∈ served.map Served.action then none else c.agenda.deadline? action
  idle : ∀ action deadline, c'.agenda.deadline? action = some deadline →
    c'.now.micros < deadline.micros
  timing : c'.rig.rails.timing = c.rig.rails.timing

theorem runAction_timing (c : Controller σ) (action : DeferredAction) :
    (c.runAction action).rig.rails.timing = c.rig.rails.timing := by
  cases action with
  | forceShutdown | thermalForceShutdown => rfl
  | forceReset =>
    simp only [runAction, runReset]
    split <;> rfl
  | thermalFanOverride =>
    have powered : ∀ rail settle timeout,
        (c.rig.powerOn rail settle timeout).2.rails.timing = c.rig.rails.timing :=
      fun rail settle timeout => (c.rig.powerOn_within rail settle timeout).timing
    simp only [runAction, runFanOverride]
    repeat' split
    all_goals first
      | rfl
      | exact powered _ _ _

theorem Orderly.nil {c : Controller σ} (idle : ∀ action deadline,
    c.agenda.deadline? action = some deadline → c.now.micros < deadline.micros) :
    c.Orderly [] c := by
  refine ⟨by simp, by simp, by simp, by simp, by simp, fun action deadline armed => ?_, by simp, idle,
    rfl⟩
  simpa using idle action deadline armed

/-- What is run at first comes before what is run from then on, since that was armed as well. -/
theorem Orderly.cons {c d c' : Controller σ} {action : DeferredAction} {deadline : Instant}
    {later : List Served} (armed : c.agenda.deadline? action = some deadline)
    (due : deadline.micros ≤ c.now.micros)
    (first : ∀ other deadline', c.agenda.deadline? other = some deadline' → other ≠ action →
      Agenda.Before (action, deadline) (other, deadline'))
    (agenda : d.agenda = c.agenda.set action none) (forward : c.now.micros ≤ d.now.micros)
    (timing : d.rig.rails.timing = c.rig.rails.timing) (after : d.Orderly later c') :
    c.Orderly (⟨action, deadline, c.now⟩ :: later) c' := by
  have gone : d.agenda.deadline? action = none := by
    rw [agenda, Agenda.deadline?_set_self]
  have kept : ∀ other, other ≠ action → d.agenda.deadline? other = c.agenda.deadline? other := by
    intro other another
    rw [agenda, Agenda.deadline?_set_of_ne _ another]
  have others : ∀ s ∈ later, s.action ≠ action := fun s listed same => by
    have held := after.entered s listed
    rw [same, gone] at held
    cases held
  have entered : ∀ s ∈ later, c.agenda.deadline? s.action = some s.deadline := fun s listed =>
    (kept _ (others s listed)).symm.trans (after.entered s listed)
  have absent : action ∉ later.map Served.action := fun listed => by
    obtain ⟨s, hs, same⟩ := List.mem_map.1 listed
    exact others s hs same
  have onward : ∀ time ∈ later.map (·.looked.micros) ++ [c'.now.micros], c.now.micros ≤ time :=
    fun time listed => Nat.le_trans forward ((List.pairwise_cons.1 after.looks).1 time listed)
  refine ⟨?_, ?_, ?_, ?_, ?_, fun other deadline' armed' => ?_, fun other => ?_, after.idle,
    after.timing.trans timing⟩
  · exact List.forall_mem_cons.2 ⟨armed, entered⟩
  · exact List.nodup_cons.2 ⟨absent, after.once⟩
  · exact List.pairwise_cons.2
      ⟨fun s listed => first _ _ (entered s listed) (others s listed), after.ordered⟩
  · exact List.forall_mem_cons.2 ⟨due, after.due⟩
  · exact List.pairwise_cons.2 ⟨List.forall_mem_cons.2 ⟨Nat.le_refl _, onward⟩,
      List.pairwise_cons.2 ⟨onward, (List.pairwise_cons.1 after.looks).2⟩⟩
  · by_cases same : other = action
    · subst same
      obtain rfl := Option.some.inj (armed.symm.trans armed')
      have ended : c.now.micros ≤ c'.now.micros := onward _ (by simp)
      exact iff_of_true List.mem_cons_self (Nat.le_trans due ended)
    · rw [List.map_cons, List.mem_cons, or_iff_right same]
      exact after.served_iff other deadline' ((kept other same).trans armed')
  · rw [after.left]
    by_cases same : other = action
    · subst same
      rw [gone, ite_self]
      exact (if_pos List.mem_cons_self).symm
    · simp only [List.map_cons, List.mem_cons, same, false_or, kept other same]

theorem Polls.orderly {good : σ → Prop} (clock : KeepsTime good) {c c' : Controller σ}
    {served : List Served} (polls : c.Polls served c') (fine : good c.board) :
    c.Orderly served c' := by
  induction polls with
  | rests idle => exact .nil idle
  | @runs c c' action deadline later armed due first rest ih =>
    let d : Controller σ := { c with agenda := c.agenda.set action none }
    obtain ⟨fine', forward⟩ := clock.called fine (d.runAction_called action)
    exact .cons armed due first (d.runAction_agenda action) forward (d.runAction_timing action)
      (ih fine')

theorem Orderly.few {c c' : Controller σ} {served : List Served} (h : c.Orderly served c') :
    served.length ≤ DeferredAction.all.length := by
  have within : served.map Served.action ⊆ DeferredAction.all := fun action _ => by
    cases action <;> decide
  have bound := (h.once.subperm within).length_le
  rwa [List.length_map] at bound

/-- A poll of the agenda runs what is due, once each and in the order of the deadlines, and leaves
nothing that is due. It ends after four actions at the most, and the waits in them end by their own
test. -/
theorem poll_runs_due {good : σ → Prop} (clock : KeepsTime good) (c : Controller σ)
    (fine : good c.board) (counts : 1 ≤ c.rig.rails.timing.poll.micros) :
    ∃ served, c.Polls served c.pollDeferred.2 ∧ c.Orderly served c.pollDeferred.2 ∧
      served.length ≤ 4 ∧ (c.pollDeferred.1 = true ↔ served ≠ []) ∧
      (∀ extra, runDue (4 + extra) c = c.pollDeferred) ∧ c.rig.rails.timing.Settles good := by
  obtain ⟨served, polls, ran, settled⟩ := c.runDue_polls DeferredAction.all.length c.agenda.size_le
  have orderly := polls.orderly clock fine
  exact ⟨served, polls, orderly, orderly.few, ran, settled, clock.settles counts⟩

/-- The AP is too hot and gets a reset of the watchdog half a millisecond before it is forced off. -/
def resetBeforeForce : List (Input Bench) :=
  hotStart ++ [.tick, .wait (Span.ofMicros 1999500), .watchdog ⟨2225500⟩]

/-- The forced shutdown falls due while the AP is held in reset, and the poll does not end before it has
run it as well. The fan override is left for later. -/
theorem carrier_polls_on :
    ∃ c served, Reaches carrier c ∧ c.Polls served c.pollDeferred.2 ∧
      c.Orderly served c.pollDeferred.2 ∧
      (∀ action, action ∈ served.map Served.action ↔
        action ∈ [DeferredAction.forceReset, .thermalForceShutdown]) ∧
      (∀ deadline, c.agenda.deadline? .thermalForceShutdown = some deadline →
        c.now.micros < deadline.micros) ∧
      c.pollDeferred.2.agenda.isPending .thermalFanOverride = true := by
  obtain ⟨c, reached, now, agenda, later, counts⟩ :
      ∃ c, along (fun _ _ => true) resetBeforeForce carrier = some c ∧ c.now = ⟨2235500⟩ ∧
        c.agenda = ⟨none, some ⟨2235500⟩, some ⟨2236000⟩, some ⟨2336000⟩⟩ ∧
        c.pollDeferred.2.now = ⟨2236500⟩ ∧ 1 ≤ c.rig.rails.timing.poll.micros := by
    decide +kernel
  have fine : c.board.time.micros ≤ Instant.last := by
    have read : c.board.time = ⟨2235500⟩ := now
    rw [read]
    decide
  obtain ⟨served, polls, orderly, _⟩ := poll_runs_due Bench.keepsTime c fine counts
  have served_iff := orderly.served_iff
  have left := orderly.left
  rw [agenda, later] at served_iff
  rw [agenda] at left
  have unarmed : DeferredAction.forceShutdown ∉ served.map Served.action := fun listed => by
    obtain ⟨s, hs, same⟩ := List.mem_map.1 listed
    have armed := orderly.entered s hs
    rw [same, agenda] at armed
    cases armed
  have early : DeferredAction.thermalFanOverride ∉ served.map Served.action :=
    mt (served_iff .thermalFanOverride ⟨2336000⟩ rfl).1 (by decide)
  refine ⟨c, served, along_reaches _ carrier c reached, polls, orderly, fun action => ?_, ?_, ?_⟩
  · cases action with
    | forceShutdown => exact iff_of_false unarmed (by decide)
    | forceReset => exact iff_of_true ((served_iff _ ⟨2235500⟩ rfl).2 (by decide)) (by decide)
    | thermalForceShutdown =>
      exact iff_of_true ((served_iff _ ⟨2236000⟩ rfl).2 (by decide)) (by decide)
    | thermalFanOverride => exact iff_of_false early (by decide)
  · rw [agenda, now]
    rintro _ ⟨⟩
    decide
  · rw [Agenda.isPending, left, if_neg early]
    rfl

end Controller

end BoardWarden
