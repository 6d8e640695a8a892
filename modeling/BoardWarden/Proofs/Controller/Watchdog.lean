import BoardWarden.Proofs.Controller.Descent
import BoardWarden.Proofs.Controller.Poll

set_option autoImplicit false

namespace BoardWarden.Controller

open Settings (Store)

variable {σ : Type}

def resetPending (c : Controller σ) : Bool := c.agenda.isPending .forceReset

structure SparesReset (c c' : Controller σ) : Prop where
  mark : c'.watchdogReset = c.watchdogReset
  pending : c'.resetPending = c.resetPending

namespace SparesReset

theorem of_agenda {c c' : Controller σ} (mark : c'.watchdogReset = c.watchdogReset)
    (agenda : c'.agenda = c.agenda) : SparesReset c c' :=
  ⟨mark, by rw [resetPending, agenda, resetPending]⟩

theorem trans {c d e : Controller σ} (h : SparesReset c d) (h' : SparesReset d e) :
    SparesReset c e :=
  ⟨h'.mark.trans h.mark, h'.pending.trans h.pending⟩

end SparesReset

theorem schedule_sparesReset (c : Controller σ) (action : DeferredAction) (now : Instant)
    (delay : Span) (other : action ≠ .forceReset) :
    SparesReset c (c.schedule action now delay) :=
  ⟨rfl, Agenda.isPending_schedule_of_ne _ (Ne.symm other) now delay⟩

theorem cancel_sparesReset (c : Controller σ) (action : DeferredAction)
    (other : action ≠ .forceReset) : SparesReset c (c.cancel action) :=
  ⟨rfl, Agenda.isPending_cancel_of_ne _ (Ne.symm other)⟩

theorem powerButtonChanged_sparesReset (c : Controller σ) (pressed : Bool) (time : Instant) :
    SparesReset c (c.powerButtonChanged pressed time) := by
  have held : ∀ m : Sequencer, SparesReset c { c with sequencer := m } := fun m => .of_agenda rfl rfl
  simp only [powerButtonChanged]
  split
  · exact (held _).trans (schedule_sparesReset _ .forceShutdown time _ (by decide))
  · exact (held _).trans (cancel_sparesReset _ .forceShutdown (by decide))

theorem loadSettings_mark (c : Controller σ) (store : Store) (time : Instant) :
    (c.loadSettings store time).watchdogReset = c.watchdogReset := by
  simp only [loadSettings, loadDaughterboard]
  split <;> rfl

variable [Board σ]

theorem init_sparesReset (c : Controller σ) (store : Store) (reset : ResetFlags) :
    SparesReset c (c.init store reset) := by
  refine .of_agenda ?_ (c.init_fields store reset).1
  have loaded := loadSettings_mark { c with rig := c.rig.adoptLive } store c.now
  simp only [init]
  split <;> exact loaded

theorem serviceFaults_sparesReset (c : Controller σ) : SparesReset c c.serviceFaults.2 := by
  simp only [serviceFaults]
  repeat' split
  all_goals exact .of_agenda rfl rfl

theorem stepPower_sparesReset (c : Controller σ) : SparesReset c c.stepPower := by
  refine ⟨?_, c.stepPower_armed .forceReset⟩
  have worked : c.work.watchdogReset = c.watchdogReset := c.serviceFaults_sparesReset.mark
  rw [stepPower_work, ← worked]
  simp only [switchFans, disableFans, pullThermalForward]
  repeat' split
  all_goals rfl

theorem tickSecond_sparesReset (c c' : Controller σ) (tick : CoolingTick)
    (ticked : c.tickSecond = .ok (tick, c')) : SparesReset c c' := by
  refine ⟨?_, c.tickSecond_armed ticked .forceReset (.inr rfl)⟩
  obtain ⟨cooling, p, fans, delay, _, _, rfl⟩ := tickSecond_stages ticked
  have fanned : ∀ d : Controller σ, (d.fansWorked c.now).watchdogReset = d.watchdogReset := by
    intro d
    simp only [fansWorked, fanPowerGood]
    split <;> rfl
  rw [fanned]
  simp only [followed, followRecovery, recover]
  repeat' split
  all_goals rfl

theorem command_sparesReset (c c' : Controller σ) (fan : FanId) (command : FanCommand)
    (commanded : c.command fan command = .ok c') : SparesReset c c' := by
  refine .of_agenda ?_ (c.command_fields fan command commanded).2.2.2.1
  cases command with
  | mode | follow | enable | duty =>
    cases commanded
    rfl
  | target rpm =>
    simp only [Controller.command] at commanded
    cases set : c.fans.setTarget fan rpm with
    | error halt =>
      rw [set] at commanded
      cases commanded
    | ok fans =>
      rw [set] at commanded
      cases commanded
      rfl

/-- The deferred reset was done: a running AP is told the reason, and an AP that the watchdog finds
off is asked up. -/
structure ResetDone (c c' : Controller σ) : Prop where
  armed : c.resetPending = true
  disarmed : c'.resetPending = false
  mark : c'.watchdogReset = false
  reason : c.powerState = .s0 ∨ c.powerState = .s3s0 →
    c'.sequencer.lastReset = some (if c.watchdogReset then .watchdog else .resetButton)
  asked : c.watchdogReset = true → c.powerState = .g3 ∨ c.powerState = .s5g3 →
    c'.sequencer.exitRequested = true

structure KeepsReset (c c' : Controller σ) : Prop extends SparesReset c c' where
  state : c'.powerState = c.powerState
  reason : c'.sequencer.lastReset = c.sequencer.lastReset
  asked : c'.sequencer.exitRequested = c.sequencer.exitRequested

omit [Board σ] in
theorem KeepsReset.refl (c : Controller σ) : KeepsReset c c := ⟨⟨rfl, rfl⟩, rfl, rfl, rfl⟩

omit [Board σ] in
theorem KeepsReset.trans {c d e : Controller σ} (h : KeepsReset c d) (h' : KeepsReset d e) :
    KeepsReset c e :=
  ⟨h.toSparesReset.trans h'.toSparesReset, h'.state.trans h.state, h'.reason.trans h.reason,
    h'.asked.trans h.asked⟩

omit [Board σ] in
theorem ResetDone.before {c d e : Controller σ} (h : KeepsReset c d) (done : ResetDone d e) :
    ResetDone c e where
  armed := h.pending.symm.trans done.armed
  disarmed := done.disarmed
  mark := done.mark
  reason up := by
    rw [← h.mark]
    exact done.reason (by rwa [h.state])
  asked marked off := done.asked (h.mark.trans marked) (by rwa [h.state])

omit [Board σ] in
theorem ResetDone.after {c d e : Controller σ} (done : ResetDone c d) (h : KeepsReset d e) :
    ResetDone c e where
  armed := done.armed
  disarmed := h.pending.trans done.disarmed
  mark := h.mark.trans done.mark
  reason up := h.reason.trans (done.reason up)
  asked marked off := h.asked.trans (done.asked marked off)

theorem forceShutdown_keepsReset (c : Controller σ) (reason : ShutdownReason) :
    KeepsReset c (c.forceShutdown reason) :=
  ⟨.of_agenda rfl rfl, (Sequencer.forceShutdown_serves ..).state,
    Sequencer.forceShutdown_lastReset .., Sequencer.forceShutdown_exitRequested ..⟩

theorem runAction_keepsReset (c : Controller σ) (action : DeferredAction)
    (other : action ≠ .forceReset) : KeepsReset c (c.runAction action) := by
  cases action with
  | forceShutdown => exact c.forceShutdown_keepsReset .powerButton
  | thermalForceShutdown => exact c.forceShutdown_keepsReset .thermal
  | forceReset => exact absurd rfl other
  | thermalFanOverride =>
    simp only [runAction, runFanOverride]
    split <;> exact ⟨.of_agenda rfl rfl, rfl, rfl, rfl⟩

theorem runReset_done (c : Controller σ) (armed : c.resetPending = true) :
    ResetDone c ({ c with agenda := c.agenda.set .forceReset none }.runAction .forceReset) := by
  let taken : Controller σ := { c with agenda := c.agenda.set .forceReset none }
  change ResetDone c taken.runReset
  have disarmed : taken.resetPending = false := by simp [taken, resetPending, Agenda.isPending]
  cases marked : c.watchdogReset with
  | true =>
    have ran : taken.runReset =
        { (taken.reset .watchdog).2.requestPowerOn.2 with watchdogReset := false } := by
      simp only [runReset, show taken.watchdogReset = true from marked, ↓reduceIte]
    let m := (c.sequencer.reset .watchdog c.plant).2.1
    have state : m.state = c.powerState := (c.sequencer.reset_serves .watchdog c.plant).state
    rw [ran]
    refine ⟨armed, disarmed, rfl, fun up => ?_, fun _ off => ?_⟩
    · rw [marked]
      exact m.exitHardOff_lastReset.trans (c.sequencer.reset_lastReset .watchdog c.plant up)
    · exact m.exitHardOff_requests.2 (.inr (by rwa [state]))
  | false =>
    have ran : taken.runReset = (taken.reset .resetButton).2 := by
      simp only [runReset, show taken.watchdogReset = false from marked, Bool.false_eq_true,
        ↓reduceIte]
    rw [ran]
    refine ⟨armed, disarmed, marked, fun up => ?_, fun never _ => ?_⟩
    · rw [marked]
      exact c.sequencer.reset_lastReset .resetButton c.plant up
    · rw [marked] at never
      cases never

theorem runDue_reset (count : Nat) (c : Controller σ) :
    KeepsReset c (runDue count c).2 ∨ ResetDone c (runDue count c).2 := by
  induction count generalizing c with
  | zero => exact .inl (.refl c)
  | succ count ih =>
    simp only [runDue]
    split
    · exact .inl (.refl c)
    · rename_i action agenda found
      obtain ⟨rfl, deadline, held, _⟩ := Agenda.takeExpired_spec _ _ _ _ found
      by_cases reset : action = .forceReset
      · subst reset
        have done := c.runReset_done (by rw [resetPending, Agenda.isPending, held]; rfl)
        rcases ih _ with kept | again
        · exact .inr (done.after kept)
        · have armed := again.armed
          rw [done.disarmed] at armed
          cases armed
      · have taken : KeepsReset c { c with agenda := c.agenda.set action none } :=
          ⟨⟨rfl, Agenda.isPending_set_of_ne _ (Ne.symm reset) _⟩, rfl, rfl, rfl⟩
        have first := taken.trans (runAction_keepsReset _ action reset)
        rcases ih _ with kept | done
        · exact .inl (first.trans kept)
        · exact .inr (.before first done)

theorem pollDeferred_resets {good : σ → Prop} (clock : KeepsTime good) (c : Controller σ)
    (fine : good c.board) (deadline : Instant)
    (armed : c.agenda.deadline? .forceReset = some deadline)
    (due : deadline.micros ≤ c.now.micros) : ResetDone c c.pollDeferred.2 := by
  have disarmed := runDue_does clock _ c fine c.agenda.size_le .forceReset deadline armed due
  rcases runDue_reset DeferredAction.all.length c with kept | done
  · have pending : c.resetPending = true := by
      rw [resetPending, Agenda.isPending, armed]
      rfl
    have still := kept.pending.trans pending
    rw [resetPending, disarmed] at still
    cases still
  · exact done

def Input.armsReset : Input σ → Bool
  | .resetButton true _ | .watchdog _ => true
  | _ => false

theorem apply_arms (c c' : Controller σ) (input : Input σ) (applied : c.apply input = .ok c')
    (arms : input.armsReset = true) : c'.resetPending = true ∧
      ((∀ time, input ≠ .watchdog time) → c'.watchdogReset = c.watchdogReset) := by
  have armed : ∀ time delay, (c.agenda.schedule .forceReset time delay).isPending .forceReset = true :=
    c.agenda.isPending_schedule_self .forceReset
  cases input with
  | resetButton pressed time =>
    cases pressed with
    | true =>
      cases applied
      exact ⟨armed time _, fun _ => rfl⟩
    | false => cases arms
  | watchdog time =>
    cases applied
    exact ⟨armed time _, fun other => absurd rfl (other time)⟩
  | _ => cases arms

omit [Board σ] in
theorem resetReleased (c : Controller σ) (time : Instant) :
    (c.resetButtonChanged false time).resetPending = false := by
  simp [resetButtonChanged, cancel, resetPending, Agenda.cancel, Agenda.isPending]

theorem apply_unarming (c c' : Controller σ) (input : Input σ) (applied : c.apply input = .ok c')
    (quiet : input.armsReset = false) :
    SparesReset c c' ∨ ResetDone c c' ∨
      (∃ time, input = .resetButton false time) ∧ c'.resetPending = false ∧
        c'.watchdogReset = c.watchdogReset := by
  cases input with
  | init store reset =>
    cases applied
    exact .inl (c.init_sparesReset store reset)
  | powerButton pressed time =>
    cases applied
    exact .inl (c.powerButtonChanged_sparesReset pressed time)
  | resetButton pressed time =>
    cases pressed with
    | true => cases quiet
    | false =>
      cases applied
      exact .inr (.inr ⟨⟨time, rfl⟩, c.resetReleased time, rfl⟩)
  | watchdog time => cases quiet
  | feedback | powerOn | shutDown | reset | wait | outside =>
    cases applied
    exact .inl (.of_agenda rfl rfl)
  | faults =>
    cases applied
    exact .inl c.serviceFaults_sparesReset
  | step =>
    cases applied
    exact .inl c.stepPower_sparesReset
  | poll =>
    cases applied
    exact (runDue_reset _ c).imp KeepsReset.toSparesReset .inl
  | tick =>
    obtain ⟨tick, ticked⟩ := apply_tick applied
    exact .inl (c.tickSecond_sparesReset c' tick ticked)
  | fan fan command => exact .inl (c.command_sparesReset c' fan command applied)

/-- A release of the reset button called the watchdog's reset off, and nothing has armed a reset
since. -/
def CalledOff (start c : Controller σ) : Prop :=
  ∃ d d' time, Reaches start d ∧ d.watchdogReset = true ∧
    d.apply (.resetButton false time) = .ok d' ∧ Run (fun input _ => input.armsReset = false) d' c

theorem CalledOff.unarmed {start c : Controller σ} (h : CalledOff start c) :
    c.watchdogReset = true ∧ c.resetPending = false := by
  obtain ⟨d, d', time, _, marked, released, since⟩ := h
  have first : d'.watchdogReset = true ∧ d'.resetPending = false := by
    cases released
    exact ⟨marked, d.resetReleased time⟩
  refine since.invariant (fun e => e.watchdogReset = true ∧ e.resetPending = false) ?_ first
  rintro e input e' ⟨marked, unarmed⟩ applied quiet
  rcases e.apply_unarming e' input applied quiet with spares | done | ⟨_, idle, mark⟩
  · exact ⟨spares.mark.trans marked, spares.pending.trans unarmed⟩
  · have armed := done.armed
    rw [unarmed] at armed
    cases armed
  · exact ⟨mark.trans marked, idle⟩

theorem run_armed {start c : Controller σ} (unmarked : start.watchdogReset = false)
    (run : Reaches start c) (marked : c.watchdogReset = true) :
    c.resetPending = true ∨ CalledOff start c := by
  -- Only a release disarms the reset and leaves the mark; from there on, what does not arm it
  -- again leaves both as they are.
  induction run with
  | start =>
    rw [unmarked] at marked
    cases marked
  | @next c c' input run applied _ ih =>
    cases arms : input.armsReset with
    | true => exact .inl (c.apply_arms c' input applied arms).1
    | false =>
      rcases c.apply_unarming c' input applied arms with spares | done | ⟨⟨time, rfl⟩, _, mark⟩
      · rcases ih (spares.mark.symm.trans marked) with armed | ⟨d, d', time, before, held, released, since⟩
        · exact .inl (spares.pending.trans armed)
        · exact .inr ⟨d, d', time, before, held, released, .next input since applied arms⟩
      · rw [done.mark] at marked
        cases marked
      · exact .inr ⟨c, c', time, run, mark.symm.trans marked, applied, .start⟩

/-- The pending reset was armed by the reset button at `d`, where none was pending, and the watchdog
has not expired since. -/
structure ByButton (start d c : Controller σ) : Prop where
  reached : Reaches start d
  idle : d.resetPending = false
  since : ∃ d' time, d.apply (.resetButton true time) = .ok d' ∧
    Run (fun input e => (∀ time, input ≠ .watchdog time) ∧ e.resetPending = true) d' c

theorem ByButton.mark {start d c : Controller σ} (h : ByButton start d c) :
    c.watchdogReset = d.watchdogReset := by
  obtain ⟨d', time, pressed, since⟩ := h.since
  have first := (d.apply_arms d' _ pressed rfl).2 (fun _ never => by cases never)
  refine since.invariant (fun e => e.watchdogReset = d.watchdogReset) ?_ first
  rintro e input e' same applied ⟨other, armed⟩
  cases arms : input.armsReset with
  | true => exact ((e.apply_arms e' input applied arms).2 other).trans same
  | false =>
    rcases e.apply_unarming e' input applied arms with spares | done | ⟨_, idle, mark⟩
    · exact spares.mark.trans same
    · rw [done.disarmed] at armed
      cases armed
    · exact mark.trans same

/-- The mark of the watchdog stands for a pending reset, unless a release of the reset button called
that reset off. A pending reset is kept or done by each poll, and is done from its deadline on; and
a reset of the button is put down to the watchdog exactly if it comes after one that was called
off. -/
theorem watchdog_reset_comes (layout : BoardLayout) (fanCount : Nat) (config : ControllerConfig)
    (board : σ) (c : Controller σ) (run : Reaches (fresh layout fanCount config board) c) :
    (c.watchdogReset = true →
        (c.resetPending = true ↔ ¬ CalledOff (fresh layout fanCount config board) c)) ∧
      (SparesReset c c.pollDeferred.2 ∨ ResetDone c c.pollDeferred.2) ∧
      (∀ (good : σ → Prop) (deadline : Instant), KeepsTime good → good c.board →
        c.agenda.deadline? .forceReset = some deadline → deadline.micros ≤ c.now.micros →
          ResetDone c c.pollDeferred.2) ∧
      ∀ d, ByButton (fresh layout fanCount config board) d c →
        (c.watchdogReset = true ↔ CalledOff (fresh layout fanCount config board) d) := by
  refine ⟨fun marked => ⟨fun armed off => ?_, fun on => ?_⟩,
    (runDue_reset _ c).imp KeepsReset.toSparesReset id,
    fun good deadline clock fine armed due => c.pollDeferred_resets clock fine deadline armed due,
    fun d button => ⟨fun marked => ?_, fun off => ?_⟩⟩
  · rw [off.unarmed.2] at armed
    cases armed
  · exact (run_armed rfl run marked).resolve_right on
  · have held : d.watchdogReset = true := button.mark.symm.trans marked
    rcases run_armed rfl button.reached held with armed | off
    · rw [button.idle] at armed
      cases armed
    · exact off
  · exact button.mark.trans off.unarmed.1

def running : List (Input Bench) :=
  [.init Store.empty ⟨false, false, false, false⟩, .powerOn] ++ List.replicate 6 .step

def watchdogDue : List (Input Bench) :=
  running ++ [.watchdog ⟨36000⟩, .wait (Span.ofMillis 10)]

def watchdogReleased : List (Input Bench) :=
  running ++ [.resetButton true ⟨36000⟩, .watchdog ⟨36000⟩, .resetButton false ⟨36000⟩]

theorem carrier_watchdog_resets :
    ∃ c, Reaches carrier c ∧ c.watchdogReset = true ∧ c.powerState = .s0 ∧
      c.pollDeferred.2.sequencer.lastReset = some .watchdog := by
  obtain ⟨c, reached, marked, up, fine, armed⟩ :
      ∃ c, along (fun _ _ => true) watchdogDue carrier = some c ∧ c.watchdogReset = true ∧
        c.powerState = .s0 ∧ c.board.time.micros ≤ Instant.last ∧
        c.agenda.deadline? .forceReset = some c.now := by
    decide +kernel
  have run := along_reaches watchdogDue carrier c reached
  have done := (watchdog_reset_comes Carrier.layout Carrier.fanCount ControllerConfig.builtIn
    Carrier.bench c run).2.2.1 _ c.now Bench.keepsTime fine armed (Nat.le_refl _)
  refine ⟨c, run, marked, up, ?_⟩
  rw [done.reason (.inl up), marked]
  rfl

/-- The release calls the watchdog's reset off: the mark stands and nothing is pending. The next
press of the button is put down to the watchdog. -/
theorem carrier_watchdog_lost :
    ∃ c e, Reaches carrier c ∧ c.watchdogReset = true ∧ c.resetPending = false ∧
      c.sequencer.lastReset = none ∧ ByButton carrier c e ∧
      e.pollDeferred.2.sequencer.lastReset = some .watchdog := by
  obtain ⟨c, reached, marked, idle, none, e, pressed, reason⟩ :
      ∃ c, along (fun _ _ => true) watchdogReleased carrier = some c ∧ c.watchdogReset = true ∧
        c.resetPending = false ∧ c.sequencer.lastReset = none ∧
        ∃ e, along (fun _ e => e.resetPending) [.wait (Span.ofMillis 50)]
            (c.resetButtonChanged true c.now) = some e ∧
          e.pollDeferred.2.sequencer.lastReset = some .watchdog := by
    decide +kernel
  have run := along_reaches watchdogReleased carrier c reached
  have since := along_run (A := fun input e => (∀ time, input ≠ .watchdog time) ∧ e.resetPending = true)
    _ [.wait (Span.ofMillis 50)]
    (fun input listed d armed => ⟨fun time same => by simp [same] at listed, armed⟩) _ _ e .start
    pressed
  exact ⟨c, e, run, marked, idle, none, ⟨run, idle, _, c.now, rfl, since⟩, reason⟩

end BoardWarden.Controller
