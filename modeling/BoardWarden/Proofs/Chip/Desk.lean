import Mathlib.Algebra.Group.Nat.Even
import BoardWarden.Chip.Watch
import BoardWarden.Proofs.Controller.Poll

set_option autoImplicit false

/-!
The tasks around the inbox, in any order of their steps. Two watches report what their buttons do,
the fault line reports its edges, and the control task takes the events in turn. A level of the power
button that finds the inbox full is dropped and not reported again, so the controller follows the
button only up to such a loss.
-/

namespace BoardWarden

structure Change where
  level : Bool
  queued : Bool
  deriving DecidableEq

namespace Change

def kept (changes : List Change) : List Bool := (changes.filter queued).map level

/-- Changes that were dropped since the last one that was queued. -/
def lost (changes : List Change) : Nat := (changes.takeWhile fun change => !change.queued).length

theorem kept_all {changes : List Change} (none : changes.countP (fun change => !change.queued) = 0) :
    kept changes = changes.map level ∧ lost changes = 0 := by
  have all : ∀ change ∈ changes, change.queued = true := by
    simpa using List.countP_eq_zero.1 none
  refine ⟨by rw [kept, List.filter_eq_self.2 all], ?_⟩
  cases changes with
  | nil => rfl
  | cons change rest => simp [lost, all change List.mem_cons_self]

/-- The levels, latest first, lead to the level that the watch holds. -/
def LeadTo : Bool → List Change → Prop
  | _, [] => True
  | latched, change :: rest => change.level = latched ∧ LeadTo (!latched) rest

/-- The last level that was queued is the one that the watch holds if an even number was dropped
since. -/
theorem LeadTo.kept_head {latched level : Bool} {changes : List Change} (h : LeadTo latched changes)
    (last : (kept changes).head? = some level) : level = latched ↔ Even (lost changes) := by
  induction changes generalizing latched with
  | nil => cases last
  | cons change rest ih =>
    obtain ⟨rfl, earlier⟩ := h
    cases queued : change.queued with
    | true =>
      have same : change.level = level := by simpa [kept, queued] using last
      simp [lost, queued, same]
    | false =>
      have dropped : lost (change :: rest) = lost rest + 1 := by simp [lost, queued]
      have before := ih earlier (by simpa [kept, queued] using last)
      rw [dropped, Nat.even_add_one, ← before]
      cases level <;> cases change.level <;> decide

end Change

def ControlEvent.level? : ControlEvent → Option Bool
  | powerButton pressed => some pressed
  | _ => none

namespace Inbox

def levels (q : Inbox) : List Bool := q.waiting.filterMap ControlEvent.level?

/-- An event is queued behind all others, or it is counted and nothing else happens. -/
theorem post_cases (q : Inbox) (event : ControlEvent) :
    ((q.post event).1 = true ∧ (q.post event).2.levels = q.levels ++ event.level?.toList ∧
        (q.post event).2.dropped = q.dropped) ∨
      ((q.post event).1 = false ∧ (q.post event).2.levels = q.levels ∧
        (q.post event).2.dropped = q.dropped + 1) := by
  simp only [post]
  split
  · refine .inl ⟨rfl, ?_, rfl⟩
    cases event <;> simp [levels, ControlEvent.level?]
  · exact .inr ⟨rfl, rfl, rfl⟩

theorem receive_cases (q : Inbox) : (q.receive = none ∧ q.levels = []) ∨
    ∃ event rest, q.receive = some (event, rest) ∧ q.levels = event.level?.toList ++ rest.levels ∧
      rest.dropped = q.dropped := by
  cases waiting : q.waiting with
  | nil => exact .inl (by simp [receive, levels, waiting])
  | cons event rest =>
    refine .inr ⟨event, { q with waiting := rest }, by simp [receive, waiting], ?_, rfl⟩
    simp only [levels, waiting]
    cases event <;> rfl

end Inbox

/-- A watch reports a level that it did not hold, and then holds it; else it keeps its level. -/
theorem ButtonWatch.look_cases (w : ButtonWatch) (edge pressed : Bool) (now : Instant) :
    ((w.look edge pressed now).1 = none ∧ (w.look edge pressed now).2.pressed = w.pressed) ∨
      ((w.look edge pressed now).1 = some (!w.pressed) ∧
        (w.look edge pressed now).2.pressed = !w.pressed) := by
  unfold look
  split
  · split <;> exact .inl ⟨rfl, rfl⟩
  · split
    · exact .inl ⟨rfl, rfl⟩
    · by_cases same : pressed = w.pressed
      · simp [same]
      · have moved : pressed = !w.pressed := Bool.eq_not.2 same
        simp [moved]

namespace Controller

variable {σ : Type}

def Input.isPowerButton : Input σ → Bool
  | .powerButton _ _ => true
  | _ => false

variable [Board σ]

theorem apply_unarmed {c c' : Controller σ} (input : Input σ) (apart : input.isPowerButton = false)
    (applied : c.apply input = .ok c')
    (armed : c'.agenda.isPending .forceShutdown = true) :
    c.agenda.isPending .forceShutdown = true := by
  cases input with
  | powerButton _ _ => cases apart
  | init store reset =>
    cases applied
    rwa [(c.init_fields store reset).1] at armed
  | resetButton pressed time =>
    cases applied
    cases pressed with
    | true =>
      exact (Agenda.isPending_schedule_of_ne _ (by decide) _ _).symm.trans armed
    | false => exact (Agenda.isPending_cancel_of_ne _ (by decide)).symm.trans armed
  | watchdog time =>
    cases applied
    exact (Agenda.isPending_schedule_of_ne _ (by decide) _ _).symm.trans armed
  | faults =>
    cases applied
    rwa [c.serviceFaults_fields.2.2.2.2.1] at armed
  | step =>
    cases applied
    rwa [c.stepPower_armed] at armed
  | poll =>
    cases applied
    by_contra idle
    have still := runDue_disarms DeferredAction.all.length c .forceShutdown (by simpa using idle)
    cases still.symm.trans armed
  | tick =>
    obtain ⟨tick, ticked⟩ := apply_tick applied
    rwa [c.tickSecond_armed ticked .forceShutdown (.inl rfl)] at armed
  | fan fan command =>
    rwa [(c.command_fields fan command applied).2.2.2.1] at armed
  | reset reason | powerOn | shutDown _ | feedback | wait _ | outside _ =>
    cases applied
    exact armed

theorem accept_armed {c : Controller σ} {event : ControlEvent} {now : Instant}
    (armed : (c.accept event now).agenda.isPending .forceShutdown = true) :
    event.level? = some true ∨
      event.level? = none ∧ c.agenda.isPending .forceShutdown = true := by
  cases event with
  | powerButton pressed =>
    cases pressed with
    | true => exact .inl rfl
    | false => simp [accept, powerButtonChanged, cancel, Agenda.cancel, Agenda.isPending] at armed
  | resetButton pressed =>
    exact .inr ⟨rfl, apply_unarmed (.resetButton pressed now) rfl rfl armed⟩
  | supplyFeedback => exact .inr ⟨rfl, armed⟩

end Controller

structure Desk (σ : Type) where
  power : ButtonWatch
  reset : ButtonWatch
  inbox : Inbox
  controller : Controller σ
  /-- Changes of the power button since the start, latest first. No task reads them. -/
  changes : List Change
  /-- Levels of the power button that the controller accepted, latest first. No task reads them. -/
  accepted : List Bool

namespace Desk

variable {σ : Type}

def start (controller : Controller σ) (power reset : Bool) : Desk σ :=
  { power := ButtonWatch.fresh power
    reset := ButtonWatch.fresh reset
    inbox := Inbox.empty
    controller
    changes := []
    accepted := [] }

inductive Act (σ : Type) where
  | lookAtPower (edge pressed : Bool) (now : Instant)
  | lookAtReset (edge pressed : Bool) (now : Instant)
  | fault
  /-- The control task takes an event and hands it to the controller. -/
  | receive
  /-- Anything else that happens to the controller and to its board. -/
  | work (input : Controller.Input σ) (apart : input.isPowerButton = false)

def post (d : Desk σ) (event : ControlEvent) : Desk σ :=
  { d with inbox := (d.inbox.post event).2 }

def report (d : Desk σ) (level : Bool) : Desk σ :=
  { d.post (.powerButton level) with
    changes := ⟨level, (d.inbox.post (.powerButton level)).1⟩ :: d.changes }

structure Tallies (d : Desk σ) : Prop where
  latched : Change.LeadTo d.power.pressed d.changes
  order : Change.kept d.changes = d.inbox.levels.reverse ++ d.accepted
  counted : d.changes.countP (fun change => !change.queued) ≤ d.inbox.dropped
  armed : d.controller.agenda.isPending .forceShutdown = true → d.accepted.head? = some true

namespace Tallies

variable {d : Desk σ}

theorem start (layout : BoardLayout) (fanCount : Nat) (config : ControllerConfig) (board : σ)
    (power reset : Bool) :
    (Desk.start (Controller.fresh layout fanCount config board) power reset).Tallies :=
  ⟨trivial, rfl, Nat.le_refl _, fun armed => by cases armed⟩

theorem kept_accepted (h : d.Tallies) (empty : d.inbox.waiting = []) :
    Change.kept d.changes = d.accepted := by
  simpa [Inbox.levels, empty] using h.order

theorem last_accepted (h : d.Tallies) (empty : d.inbox.waiting = []) {level : Bool}
    (last : d.accepted.head? = some level) :
    level = d.power.pressed ↔ Even (Change.lost d.changes) :=
  h.latched.kept_head (by rw [h.kept_accepted empty]; exact last)

theorem none_lost (h : d.Tallies) (counted : d.inbox.dropped = 0) :
    Change.kept d.changes = d.changes.map Change.level ∧ Change.lost d.changes = 0 :=
  Change.kept_all (Nat.le_zero.1 (counted ▸ h.counted))

theorem post (h : d.Tallies) (event : ControlEvent) (other : event.level? = none) :
    (d.post event).Tallies := by
  have levels : (d.inbox.post event).2.levels = d.inbox.levels ∧
      d.inbox.dropped ≤ (d.inbox.post event).2.dropped := by
    rcases d.inbox.post_cases event with ⟨_, levels, dropped⟩ | ⟨_, levels, dropped⟩
    · exact ⟨by simpa [other] using levels, by rw [dropped]⟩
    · exact ⟨levels, by rw [dropped]; exact Nat.le_succ _⟩
  exact ⟨h.latched, h.order.trans (by rw [Desk.post, levels.1]), Nat.le_trans h.counted levels.2,
    h.armed⟩

theorem report (h : d.Tallies) (power : ButtonWatch) (moved : power.pressed = !d.power.pressed) :
    ({ d with power }.report power.pressed).Tallies := by
  have latched : Change.LeadTo (!power.pressed) d.changes := by
    rw [moved, Bool.not_not]
    exact h.latched
  have posted := d.inbox.post_cases (.powerButton power.pressed)
  refine ⟨⟨rfl, latched⟩, ?order, ?counted, h.armed⟩
  case order =>
    change Change.kept (⟨power.pressed, (d.inbox.post _).1⟩ :: d.changes) =
      (d.inbox.post _).2.levels.reverse ++ d.accepted
    rcases posted with ⟨queued, levels, _⟩ | ⟨queued, levels, _⟩
    · rw [queued, levels, List.reverse_append]
      exact congrArg (power.pressed :: ·) h.order
    · rw [queued, levels]
      exact h.order
  case counted =>
    change List.countP _ (⟨power.pressed, (d.inbox.post _).1⟩ :: d.changes) ≤ (d.inbox.post _).2.dropped
    rcases posted with ⟨queued, _, dropped⟩ | ⟨queued, _, dropped⟩
    · rw [queued, dropped]
      exact h.counted
    · rw [queued, dropped]
      simpa using h.counted

end Tallies

variable [Board σ]

def receive (d : Desk σ) : Desk σ :=
  match d.inbox.receive with
  | none => d
  | some (event, inbox) =>
    { d with
      inbox
      controller := d.controller.accept event d.controller.now
      accepted := event.level?.toList ++ d.accepted }

def act (d : Desk σ) : Act σ → Except Halt (Desk σ)
  | .lookAtPower edge pressed now =>
    let looked := d.power.look edge pressed now
    .ok (match looked.1 with
      | none => { d with power := looked.2 }
      | some level => { d with power := looked.2 }.report level)
  | .lookAtReset edge pressed now =>
    let looked := d.reset.look edge pressed now
    .ok (match looked.1 with
      | none => { d with reset := looked.2 }
      | some level => { d with reset := looked.2 }.post (.resetButton level))
  | .fault => .ok (d.post .supplyFeedback)
  | .receive => .ok d.receive
  | .work input _ => (d.controller.apply input).map fun controller => { d with controller }

def run (d : Desk σ) : List (Act σ) → Except Halt (Desk σ)
  | [] => .ok d
  | a :: rest => (d.act a).bind fun d => d.run rest

namespace Tallies

variable {d d' : Desk σ}

theorem receive (h : d.Tallies) : d.receive.Tallies := by
  rcases d.inbox.receive_cases with ⟨none, _⟩ | ⟨event, rest, some, levels, dropped⟩
  · simpa only [Desk.receive, none] using h
  · have order : Change.kept d.changes =
        rest.levels.reverse ++ (event.level?.toList ++ d.accepted) := by
      rw [h.order, levels, List.reverse_append, List.append_assoc]
      cases event <;> rfl
    simp only [Desk.receive, some]
    refine ⟨h.latched, order, by rw [dropped]; exact h.counted, fun armed => ?_⟩
    rcases Controller.accept_armed armed with press | ⟨other, before⟩
    · rw [press]
      rfl
    · rw [other]
      exact h.armed before

theorem act (h : d.Tallies) (a : Act σ) (done : d.act a = .ok d') : d'.Tallies := by
  cases a with
  | lookAtPower edge pressed now =>
    cases done
    rcases d.power.look_cases edge pressed now with ⟨silent, same⟩ | ⟨reported, moved⟩
    · simp only [silent]
      exact ⟨by rw [same]; exact h.latched, h.order, h.counted, h.armed⟩
    · simp only [reported, ← moved]
      exact h.report _ moved
  | lookAtReset edge pressed now =>
    cases done
    have kept : ∀ reset, Tallies { d with reset } :=
      fun _ => ⟨h.latched, h.order, h.counted, h.armed⟩
    split
    · exact kept _
    · exact (kept _).post _ rfl
  | fault =>
    cases done
    exact h.post .supplyFeedback rfl
  | receive =>
    cases done
    exact h.receive
  | work input apart =>
    cases applied : d.controller.apply input with
    | error halt => simp [Desk.act, applied, Except.map] at done
    | ok controller =>
      simp only [Desk.act, applied, Except.map, Except.ok.injEq] at done
      subst done
      exact ⟨h.latched, h.order, h.counted,
        fun armed => h.armed (Controller.apply_unarmed input apart applied armed)⟩

theorem run (h : d.Tallies) (acts : List (Act σ)) (ran : d.run acts = .ok d') : d'.Tallies := by
  induction acts generalizing d with
  | nil =>
    cases ran
    exact h
  | cons a rest ih =>
    cases done : d.act a with
    | error halt => simp [Desk.run, done, Except.bind] at ran
    | ok next =>
      simp only [Desk.run, done, Except.bind] at ran
      exact ih (h.act a done) ran

end Tallies

/-- The controller's view of the power button. On every run of the tasks, in any order of their steps,
the controller accepts the levels that were queued, each once and in their order, and a forced shutdown
of a held button is pending only while the last of them is a press. Once the inbox is empty, the last
level that it accepted is the one that the watch holds exactly if one was queued at all and an even
number of changes was dropped since, and so always if no event was ever dropped; and a forced shutdown
is then pending for a button that is held exactly if that number is even. -/
theorem run_in_step (layout : BoardLayout) (fanCount : Nat) (config : ControllerConfig) (board : σ)
    (power reset : Bool) (acts : List (Act σ)) (d : Desk σ)
    (ran : (start (Controller.fresh layout fanCount config board) power reset).run acts = .ok d) :
    let shutdown := d.controller.agenda.isPending .forceShutdown
    Change.kept d.changes = d.inbox.levels.reverse ++ d.accepted ∧
      (shutdown = true → d.accepted.head? = some true) ∧
      (d.inbox.waiting = [] → d.changes ≠ [] →
        (d.accepted.head? = some d.power.pressed ↔
          Change.kept d.changes ≠ [] ∧ Even (Change.lost d.changes)) ∧
        (d.inbox.dropped = 0 → d.accepted.head? = some d.power.pressed ∧
          (shutdown = true → d.power.pressed = true)) ∧
        (shutdown = true → (d.power.pressed = true ↔ Even (Change.lost d.changes)))) := by
  intro shutdown
  have h := (Tallies.start layout fanCount config board power reset).run acts ran
  refine ⟨h.order, h.armed, fun empty changed => ?_⟩
  have follows : d.accepted.head? = some d.power.pressed ↔
      Change.kept d.changes ≠ [] ∧ Even (Change.lost d.changes) := by
    rw [h.kept_accepted empty]
    cases first : d.accepted.head? with
    | none => simp [List.head?_eq_none_iff.1 first]
    | some level =>
      have some : d.accepted ≠ [] := fun none => by simp [none] at first
      simp [← h.last_accepted empty first, some]
  have held : shutdown = true → (d.power.pressed = true ↔ Even (Change.lost d.changes)) := by
    intro armed
    rw [← h.last_accepted empty (h.armed armed)]
    exact eq_comm
  refine ⟨follows, fun counted => ?_, held⟩
  obtain ⟨kept, lost⟩ := h.none_lost counted
  have even : Even (Change.lost d.changes) := by
    rw [lost]
    exact Even.zero
  exact ⟨follows.2 ⟨by simpa [kept] using changed, even⟩, fun armed => (held armed).2 even⟩

def moves {σ : Type} (pressed : Bool) (time : Instant) : List (Act σ) :=
  [.lookAtPower true pressed time, .lookAtPower false pressed (time.after ButtonWatch.settleTime)]

def press : List (Act Bench) :=
  .work (.init Settings.Store.empty ⟨false, false, false, false⟩) rfl :: .work .powerOn rfl ::
    List.replicate 6 (.work .step rfl) ++ moves true ⟨50000⟩ ++ [.receive]

def jam : List (Act Bench) :=
  press ++ List.replicate Inbox.depth .fault ++ moves false ⟨100000⟩ ++
    List.replicate Inbox.depth .receive

theorem carrier_in_step :
    ∃ d, (start Controller.carrier false false).run press = .ok d ∧ d.inbox.waiting = [] ∧
      d.changes ≠ [] ∧ d.inbox.dropped = 0 ∧
      d.controller.agenda.isPending .forceShutdown = true ∧ Even (Change.lost d.changes) ∧
      d.accepted.head? = some d.power.pressed ∧ d.power.pressed = true := by
  obtain ⟨d, ran, empty, changed, counted, armed, lost⟩ :
      ∃ d, (start Controller.carrier false false).run press = .ok d ∧ d.inbox.waiting = [] ∧
        d.changes ≠ [] ∧ d.inbox.dropped = 0 ∧
        d.controller.agenda.isPending .forceShutdown = true ∧ Change.lost d.changes = 0 := by
    decide +kernel
  have even : Even (Change.lost d.changes) := by
    rw [lost]
    exact Even.zero
  obtain ⟨_, follows, _⟩ := (run_in_step _ _ _ _ _ _ _ d ran).2.2 empty changed
  obtain ⟨last, held⟩ := follows counted
  exact ⟨d, ran, empty, changed, counted, armed, even, last, held armed⟩

/-- The button of the carrier has been let go, the inbox is empty, and the controller still takes the
button for held. After eight seconds it forces a shutdown for it. -/
theorem carrier_release_lost :
    ∃ d, (start Controller.carrier false false).run jam = .ok d ∧ d.inbox.waiting = [] ∧
      d.changes ≠ [] ∧ d.accepted.head? ≠ some d.power.pressed ∧ d.power.pressed = false ∧
      d.controller.agenda.isPending .forceShutdown = true ∧
      ∃ e, d.run [.work (.wait (Span.ofSeconds 8)) rfl, .work .poll rfl] = .ok e ∧
        e.controller.forcing = true ∧ e.controller.sequencer.lastShutdown = some .powerButton := by
  decide +kernel

end Desk

end BoardWarden
