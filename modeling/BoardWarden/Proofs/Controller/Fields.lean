import BoardWarden.Proofs.Agenda
import BoardWarden.Proofs.Quiet
import BoardWarden.Proofs.Controller.Inputs

set_option autoImplicit false

namespace BoardWarden.Controller

open Settings (Store)

variable {σ : Type} [Board σ]

/-- What leads from `c` to `c'` only asks: it touches the agenda and what the sequencer was asked
for, and neither of the thermal actions. -/
structure Asks (c c' : Controller σ) : Prop where
  rig : c'.rig = c.rig
  cooling : c'.cooling = c.cooling
  fans : c'.fans = c.fans
  supply : c'.fanSupply = c.fanSupply
  config : c'.config = c.config
  state : c'.powerState = c.powerState
  latch : c'.forcing = c.forcing
  pending : ∀ action, action = .thermalForceShutdown ∨ action = .thermalFanOverride →
    c'.agenda.isPending action = c.agenda.isPending action

omit [Board σ] in
theorem Asks.trans {c d e : Controller σ} (h : Asks c d) (h' : Asks d e) : Asks c e where
  rig := h'.rig.trans h.rig
  cooling := h'.cooling.trans h.cooling
  fans := h'.fans.trans h.fans
  supply := h'.supply.trans h.supply
  config := h'.config.trans h.config
  state := h'.state.trans h.state
  latch := h'.latch.trans h.latch
  pending action thermal := (h'.pending action thermal).trans (h.pending action thermal)

section Fields

variable (c : Controller σ)

omit [Board σ] in
theorem requestPowerOn_asks : Asks c c.requestPowerOn.2 where
  rig := rfl
  cooling := rfl
  fans := rfl
  supply := rfl
  config := rfl
  state := c.sequencer.exitHardOff_serves.state
  latch := c.sequencer.exitHardOff_forcing
  pending _ _ := rfl

omit [Board σ] in
theorem schedule_asks (action : DeferredAction) (time : Instant) (delay : Span)
    (button : action = .forceShutdown ∨ action = .forceReset) :
    Asks c (c.schedule action time delay) where
  rig := rfl
  cooling := rfl
  fans := rfl
  supply := rfl
  config := rfl
  state := rfl
  latch := rfl
  pending other thermal := by
    refine c.agenda.isPending_schedule_of_ne ?_ time delay
    rcases button with rfl | rfl <;> rcases thermal with rfl | rfl <;> decide

omit [Board σ] in
theorem cancel_asks (action : DeferredAction)
    (button : action = .forceShutdown ∨ action = .forceReset) : Asks c (c.cancel action) where
  rig := rfl
  cooling := rfl
  fans := rfl
  supply := rfl
  config := rfl
  state := rfl
  latch := rfl
  pending other thermal := by
    refine c.agenda.isPending_cancel_of_ne ?_
    rcases button with rfl | rfl <;> rcases thermal with rfl | rfl <;> decide

omit [Board σ] in
theorem powerButtonChanged_asks (pressed : Bool) (time : Instant) :
    Asks c (c.powerButtonChanged pressed time) := by
  have held : ∀ m : Sequencer, m.state = c.sequencer.state →
      m.forcingShutdown = c.sequencer.forcingShutdown → Asks c { c with sequencer := m } :=
    fun _ state latch => ⟨rfl, rfl, rfl, rfl, rfl, state, latch, fun _ _ => rfl⟩
  simp only [powerButtonChanged]
  split
  · refine (held _ ?_ ?_).trans (schedule_asks _ _ time _ (.inl rfl))
    · split
      · exact (Sequencer.exitHardOff_serves _).state
      · rfl
    · split
      · exact Sequencer.exitHardOff_forcing _
      · rfl
  · exact (held (c.sequencer.setButtonHeld pressed) rfl rfl).trans (cancel_asks _ _ (.inl rfl))

omit [Board σ] in
theorem resetButtonChanged_asks (pressed : Bool) (time : Instant) :
    Asks c (c.resetButtonChanged pressed time) := by
  simp only [resetButtonChanged]
  split
  · exact c.schedule_asks _ time _ (.inr rfl)
  · exact c.cancel_asks _ (.inr rfl)

omit [Board σ] in
theorem watchdogExpired_asks (time : Instant) : Asks c (c.watchdogExpired time) := by
  have armed := schedule_asks { c with watchdogReset := true } .forceReset time
    c.config.power.watchdogDelay (.inr rfl)
  exact ⟨rfl, rfl, rfl, rfl, rfl, rfl, rfl, armed.pending⟩

theorem command_fields {c' : Controller σ} (fan : FanId) (command : FanCommand)
    (commanded : c.command fan command = .ok c') :
    c'.sequencer = c.sequencer ∧ c'.rig.rails = c.rig.rails ∧ c'.cooling = c.cooling ∧
      c'.agenda = c.agenda ∧ c'.fanSupply = c.fanSupply ∧ c'.config = c.config ∧
      Quiet c.board c'.board := by
  cases command with
  | mode | follow =>
    cases commanded
    exact ⟨rfl, rfl, rfl, rfl, rfl, rfl, .none⟩
  | enable on =>
    cases commanded
    exact ⟨rfl, rfl, rfl, rfl, rfl, rfl, c.fans.setEnabled_quiet fan on c.plant⟩
  | duty percent =>
    cases commanded
    exact ⟨rfl, rfl, rfl, rfl, rfl, rfl, c.fans.setDuty_quiet fan percent c.plant⟩
  | target rpm =>
    simp only [command] at commanded
    cases set : c.fans.setTarget fan rpm with
    | error halt =>
      rw [set] at commanded
      cases commanded
    | ok fans =>
      rw [set] at commanded
      cases commanded
      exact ⟨rfl, rfl, rfl, rfl, rfl, rfl, .none⟩

omit [Board σ] in
theorem loadSettings_fields (store : Store) (time : Instant) :
    let loaded := c.loadSettings store time
    loaded.agenda = c.agenda ∧ loaded.rig.rails = c.rig.rails ∧ loaded.board = c.board ∧
      loaded.forcing = c.forcing ∧ loaded.cooling.inShutdown = c.cooling.inShutdown ∧
      loaded.cooling.config = c.cooling.config := by
  simp only [loadSettings, loadDaughterboard]
  split <;> exact ⟨rfl, rfl, rfl, rfl, rfl, rfl⟩

omit [Board σ] in
theorem loadSettings_fans (store : Store) (time : Instant) :
    ∃ j, (c.loadSettings store time).fans = (c.fans.loadLimits store time j).1 := by
  simp only [loadSettings, loadDaughterboard]
  split <;> exact ⟨_, rfl⟩

omit [Board σ] in
theorem loadSettings_serves (store : Store) (time : Instant) :
    let loaded := c.loadSettings store time
    loaded.fanSupply = c.fanSupply ∧ loaded.config = c.config := by
  simp only [loadSettings, loadDaughterboard]
  split <;> exact ⟨rfl, rfl⟩

theorem init_fields (store : Store) (reset : ResetFlags) :
    let started := c.init store reset
    started.agenda = c.agenda ∧ started.forcing = c.forcing ∧
      started.cooling.inShutdown = c.cooling.inShutdown ∧
      started.cooling.config = c.cooling.config := by
  obtain ⟨agenda, _, _, forcing, inShutdown, config⟩ :=
    loadSettings_fields { c with rig := c.rig.adoptLive } store c.now
  have latch := fun (m : Sequencer) rails autoboot (p : Plant σ) =>
    (m.chipsetInit_fields rails reset autoboot p).2.1
  simp only [init]
  split <;> exact ⟨agenda, (latch _ _ _ _).trans forcing, inShutdown, config⟩

theorem init_config (store : Store) (reset : ResetFlags) : (c.init store reset).config = c.config := by
  have loaded := (loadSettings_serves { c with rig := c.rig.adoptLive } store c.now).2
  simp only [init]
  split <;> exact loaded

theorem enableFans_fields (on : Bool) :
    (c.enableFans on).sequencer = c.sequencer ∧ (c.enableFans on).rig.rails = c.rig.rails ∧
      (c.enableFans on).cooling = c.cooling ∧ (c.enableFans on).agenda = c.agenda :=
  ⟨rfl, rfl, rfl, rfl⟩

theorem switchFans_fields (origin : PowerState) :
    (c.switchFans origin).sequencer = c.sequencer ∧
      (c.switchFans origin).rig.rails = c.rig.rails ∧
      (c.switchFans origin).cooling = c.cooling ∧ (c.switchFans origin).agenda = c.agenda := by
  simp only [switchFans]
  split
  · exact ⟨rfl, rfl, rfl, rfl⟩
  · split
    · exact c.enableFans_fields true
    · split
      · simp only [disableFans]
        split
        · exact ⟨rfl, rfl, rfl, rfl⟩
        · exact c.enableFans_fields false
      · exact ⟨rfl, rfl, rfl, rfl⟩

theorem switchFans_serves (origin : PowerState) :
    (c.switchFans origin).fanSupply = c.fanSupply ∧ (c.switchFans origin).config = c.config := by
  simp only [switchFans, disableFans]
  repeat' split
  all_goals exact ⟨rfl, rfl⟩

theorem pullThermalForward_fields :
    c.pullThermalForward.sequencer = c.sequencer ∧ c.pullThermalForward.rig = c.rig ∧
      c.pullThermalForward.cooling = c.cooling ∧ c.pullThermalForward.fans = c.fans := by
  simp only [pullThermalForward]
  split <;> exact ⟨rfl, rfl, rfl, rfl⟩

theorem pullThermalForward_serves :
    c.pullThermalForward.fanSupply = c.fanSupply ∧ c.pullThermalForward.config = c.config := by
  simp only [pullThermalForward]
  split <;> exact ⟨rfl, rfl⟩

theorem serviceFaults_fields :
    c.serviceFaults.2.powerState = c.powerState ∧
      (c.forcing = true → c.serviceFaults.2.forcing = true) ∧
      c.serviceFaults.2.sequencer.exitRequested = c.sequencer.exitRequested ∧
      c.serviceFaults.2.cooling = c.cooling ∧ c.serviceFaults.2.agenda = c.agenda ∧
      c.serviceFaults.2.fans = c.fans := by
  simp only [serviceFaults]
  split
  · split
    · exact ⟨rfl, id, rfl, rfl, rfl, rfl⟩
    · exact ⟨(Sequencer.forceShutdown_serves ..).state,
        fun _ => Sequencer.forceShutdown_forcing .., Sequencer.forceShutdown_exitRequested ..,
        rfl, rfl, rfl⟩
  · exact ⟨rfl, id, rfl, rfl, rfl, rfl⟩

def work : Controller σ :=
  let checked := c.serviceFaults.2
  let handled := checked.sequencer.handle checked.rig
  { checked with sequencer := handled.1, rig := handled.2 }

theorem stepPower_work : c.stepPower = c.work.pullThermalForward.switchFans c.powerState := by
  rw [← c.serviceFaults_fields.1]
  rfl

theorem stepPower_cooling : c.stepPower.cooling = c.cooling := by
  rw [stepPower_work, (switchFans_fields _ _).2.2.1, (pullThermalForward_fields _).2.2.1]
  exact c.serviceFaults_fields.2.2.2.1

theorem work_moves :
    PowerTrain.Moves c.powerState c.serviceFaults.2.forcing c.work.powerState c.work.forcing := by
  rw [← c.serviceFaults_fields.1]
  exact c.serviceFaults.2.train.handle_moves

theorem fanPowerGood_fields :
    c.fanPowerGood.2.sequencer = c.sequencer ∧ c.fanPowerGood.2.rig.rails = c.rig.rails ∧
      c.fanPowerGood.2.cooling = c.cooling ∧ c.fanPowerGood.2.agenda = c.agenda ∧
      c.fanPowerGood.2.fans = c.fans := by
  simp only [fanPowerGood]
  split <;> exact ⟨rfl, rfl, rfl, rfl, rfl⟩

theorem fansWorked_fields (time : Instant) :
    (c.fansWorked time).sequencer = c.sequencer ∧ (c.fansWorked time).rig.rails = c.rig.rails ∧
      (c.fansWorked time).cooling = c.cooling ∧ (c.fansWorked time).agenda = c.agenda := by
  obtain ⟨sequencer, rails, cooling, agenda, _⟩ := c.fanPowerGood_fields
  exact ⟨sequencer, rails, cooling, agenda⟩

theorem fansWorked_serves (time : Instant) :
    (c.fansWorked time).fanSupply = c.fanSupply ∧ (c.fansWorked time).config = c.config := by
  simp only [fansWorked, fanPowerGood]
  split <;> exact ⟨rfl, rfl⟩

omit [Board σ] in
theorem recover_fields (recovery : Recovery) :
    (c.recover recovery).powerState = c.powerState ∧ (c.recover recovery).forcing = c.forcing ∧
      (c.recover recovery).rig = c.rig ∧ (c.recover recovery).cooling = c.cooling ∧
      (c.recover recovery).agenda = c.agenda := by
  cases recovery with
  | resumed => exact ⟨rfl, rfl, rfl, rfl, rfl⟩
  | restartAp =>
    exact ⟨(c.sequencer.exitHardOff_serves).state, c.sequencer.exitHardOff_forcing, rfl, rfl, rfl⟩

theorem followed_fields (tick : CoolingTick) (delay : Span) :
    let d := c.followed tick delay
    d.powerState = c.powerState ∧ d.forcing = c.forcing ∧ d.rig.rails = c.rig.rails ∧
      d.cooling = c.cooling := by
  have begun : ∀ d, d = (if tick.critical.isSome then c.askDown.armShutdown delay else c) →
      d.powerState = c.powerState ∧ d.forcing = c.forcing ∧ d.rig.rails = c.rig.rails ∧
        d.cooling = c.cooling := by
    rintro d rfl
    split <;> exact ⟨rfl, rfl, rfl, rfl⟩
  obtain ⟨state, forcing, rails, cooling⟩ := begun _ rfl
  simp only [followed, followRecovery]
  split
  · exact ⟨state, forcing, rails, cooling⟩
  · rename_i recovery _
    obtain ⟨state', forcing', rig, cooling', _⟩ :=
      recover_fields (if tick.critical.isSome then c.askDown.armShutdown delay else c) recovery
    exact ⟨state'.trans state, forcing'.trans forcing, by rw [rig, rails], cooling'.trans cooling⟩

theorem followed_config (tick : CoolingTick) (delay : Span) :
    (c.followed tick delay).config = c.config := by
  simp only [followed, followRecovery, recover]
  repeat' split
  all_goals rfl

theorem followed_agenda (tick : CoolingTick) (delay : Span) (calm : tick.critical = none) :
    (c.followed tick delay).agenda = c.agenda := by
  simp only [followed, followRecovery, calm, Option.isSome_none, Bool.false_eq_true, ↓reduceIte]
  split
  · rfl
  · exact (c.recover_fields _).2.2.2.2

theorem runAction_agenda (action : DeferredAction) :
    (c.runAction action).agenda = c.agenda := by
  cases action with
  | forceShutdown | thermalForceShutdown => rfl
  | forceReset =>
    simp only [runAction, runReset]
    split <;> rfl
  | thermalFanOverride =>
    simp only [runAction, runFanOverride]
    split <;> rfl

theorem stepPower_armed (action : DeferredAction) :
    c.stepPower.agenda.isPending action = c.agenda.isPending action := by
  have worked : c.work.agenda = c.agenda := c.serviceFaults_fields.2.2.2.2.1
  have pulled : c.work.pullThermalForward.agenda.isPending action =
      c.work.agenda.isPending action := by
    simp only [pullThermalForward]
    split <;> simp
  rw [stepPower_work, (switchFans_fields _ _).2.2.2, pulled, worked]

theorem tickSecond_armed {c' : Controller σ} {tick : CoolingTick}
    (ticked : c.tickSecond = .ok (tick, c')) (action : DeferredAction)
    (button : action = .forceShutdown ∨ action = .forceReset) :
    c'.agenda.isPending action = c.agenda.isPending action := by
  obtain ⟨cooling, p, fans, delay, _, _, rfl⟩ := tickSecond_stages ticked
  let d : Controller σ := { c.withPlant p with cooling, fans }
  have begun : (d.askDown.armShutdown delay).agenda.isPending action = c.agenda.isPending action := by
    have apart : action ≠ .thermalForceShutdown ∧ action ≠ .thermalFanOverride := by
      rcases button with rfl | rfl <;> decide
    exact (Agenda.isPending_schedule_of_ne _ apart.2 _ _).trans
      (Agenda.isPending_schedule_of_ne _ apart.1 _ _)
  have first : (if tick.critical.isSome then d.askDown.armShutdown delay
      else d).agenda.isPending action = c.agenda.isPending action := by
    split
    · exact begun
    · rfl
  rw [(fansWorked_fields _ _).2.2.2]
  simp only [followed, followRecovery]
  split
  · exact first
  · rw [(recover_fields _ _).2.2.2.2]
    exact first

end Fields

end BoardWarden.Controller
