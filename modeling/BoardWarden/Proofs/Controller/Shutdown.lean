import Mathlib.Tactic.ByContra
import BoardWarden.Proofs.Agenda
import BoardWarden.Proofs.Controller.Order

set_option autoImplicit false

/-!
A critical temperature brings a running AP down. The cooling reports it only outside a thermal
shutdown, so while the flag of the shutdown is up something else has to hold the AP down: the forced
shutdown that is still to come, or the latch that it set. Only the way out of G3 clears the latch,
and an AP that was started during the shutdown is the one case in which nothing holds it.
-/

namespace BoardWarden.Controller

open Settings (Store)

variable {σ : Type}

def forcePending (c : Controller σ) : Bool := c.agenda.isPending .thermalForceShutdown

/-- The AP is on its way down for its temperature, or will be. -/
def Doomed (c : Controller σ) : Prop := c.forcePending = true ∨ c.forcing = true

structure HoldsOn (c c' : Controller σ) : Prop where
  entered : c'.cooling.inShutdown = true → c.cooling.inShutdown = true
  pending : c.forcePending = true → c'.Doomed
  latch : c.forcing = true → c'.forcing = true

namespace HoldsOn

theorem of_same {c c' : Controller σ} (agenda : c'.agenda = c.agenda)
    (latch : c.forcing = true → c'.forcing = true) (cooling : c'.cooling = c.cooling) :
    HoldsOn c c' where
  entered h := by rwa [cooling] at h
  pending h := .inl (by rwa [forcePending, agenda])
  latch := latch

theorem refl (c : Controller σ) : HoldsOn c c := of_same rfl id rfl

theorem trans {c d e : Controller σ} (h : HoldsOn c d) (h' : HoldsOn d e) : HoldsOn c e where
  entered lasts := h.entered (h'.entered lasts)
  pending still := (h.pending still).elim h'.pending fun latch => .inr (h'.latch latch)
  latch set := h'.latch (h.latch set)

theorem doomed {c c' : Controller σ} (h : HoldsOn c c') (doomed : c.Doomed) : c'.Doomed :=
  doomed.elim h.pending fun latch => .inr (h.latch latch)

end HoldsOn

variable [Board σ]

theorem forceShutdown_holds (c : Controller σ) (reason : ShutdownReason) :
    HoldsOn c (c.forceShutdown reason) ∧ (c.forceShutdown reason).forcing = true := by
  have latch : (c.forceShutdown reason).forcing = true := Sequencer.forceShutdown_forcing ..
  exact ⟨.of_same rfl (fun _ => latch) rfl, latch⟩

theorem serviceFaults_holds (c : Controller σ) : HoldsOn c c.serviceFaults.2 := by
  obtain ⟨_, kept, _, cooling, agenda, _⟩ := c.serviceFaults_fields
  exact .of_same agenda kept cooling

omit [Board σ] in
theorem Asks.holds {c c' : Controller σ} (asks : Asks c c') : HoldsOn c c' where
  entered h := by rwa [asks.cooling] at h
  pending h := .inl ((asks.pending _ (.inl rfl)).trans h)
  latch h := asks.latch.trans h

theorem reset_holds (c : Controller σ) (reason : ResetReason) : HoldsOn c (c.reset reason).2 :=
  .of_same rfl (fun h => (c.sequencer.reset_forcing reason c.plant).trans h) rfl

theorem pullThermalForward_pending (c : Controller σ) :
    c.pullThermalForward.forcePending = c.forcePending := by
  simp only [pullThermalForward]
  split
  · simp [forcePending]
  · rfl

theorem stepPower_holds (c : Controller σ) (rising : c.powerState ≠ .g3s5) :
    HoldsOn c c.stepPower := by
  obtain ⟨_, kept, _, cooling, agenda, _⟩ := c.serviceFaults_fields
  have move := c.work_moves
  have work : HoldsOn c c.work := by
    refine .of_same agenda (fun set => ?_) cooling
    rw [kept set] at move
    generalize c.powerState = s, c.work.powerState = s', c.work.forcing = f at move rising ⊢
    cases move <;> first | rfl | exact absurd rfl rising
  have pulled : HoldsOn c.work c.work.pullThermalForward := by
    obtain ⟨sequencer, _, cooling, _⟩ := c.work.pullThermalForward_fields
    refine ⟨fun h => by rwa [cooling] at h, fun h => .inl ?_, fun h => ?_⟩
    · rwa [pullThermalForward_pending]
    · rwa [forcing, sequencer]
  have fans : HoldsOn c.work.pullThermalForward c.stepPower := by
    obtain ⟨sequencer, _, cooling, agenda⟩ :=
      c.work.pullThermalForward.switchFans_fields c.powerState
    rw [stepPower_work]
    exact .of_same agenda (fun h => by rwa [forcing, sequencer]) cooling
  exact (work.trans pulled).trans fans

theorem runAction_holds (c : Controller σ) (action : DeferredAction) :
    HoldsOn c (c.runAction action) ∧
      (action = .thermalForceShutdown → (c.runAction action).forcing = true) := by
  cases action with
  | forceShutdown => exact ⟨(c.forceShutdown_holds .powerButton).1, by simp⟩
  | thermalForceShutdown =>
    obtain ⟨holds, latch⟩ := c.forceShutdown_holds .thermal
    exact ⟨holds, fun _ => latch⟩
  | forceReset =>
    refine ⟨?_, by simp⟩
    simp only [runAction, runReset]
    split
    · have asked := (c.reset_holds .watchdog).trans (requestPowerOn_asks _).holds
      exact asked.trans (.of_same rfl id rfl)
    · exact c.reset_holds .resetButton
  | thermalFanOverride =>
    refine ⟨?_, by simp⟩
    simp only [runAction, runFanOverride]
    split <;> exact .of_same rfl id rfl

theorem takeExpired_holds (c : Controller σ) (action : DeferredAction) (agenda : Agenda)
    (taken : c.agenda.takeExpired c.now = some (action, agenda)) :
    HoldsOn c ({ c with agenda }.runAction action) := by
  obtain ⟨rfl, _⟩ := Agenda.takeExpired_spec _ _ _ _ taken
  obtain ⟨done, latch⟩ := runAction_holds { c with agenda := c.agenda.set action none } action
  refine ⟨done.entered, fun pending => ?_, done.latch⟩
  by_cases forced : action = .thermalForceShutdown
  · exact .inr (latch forced)
  · apply done.pending
    simp only [forcePending]
    rwa [Agenda.isPending_set_of_ne _ (Ne.symm forced)]

theorem runDue_holds (count : Nat) (c : Controller σ) : HoldsOn c (runDue count c).2 := by
  induction count generalizing c with
  | zero => exact .refl c
  | succ count ih =>
    simp only [runDue]
    split
    · exact .refl c
    · rename_i action agenda taken
      exact (takeExpired_holds c action agenda taken).trans (ih _)

/-- A tick that reports a critical zone begins a thermal shutdown, and arms the forced shutdown and
the fan override. -/
theorem tickSecond_critical (c c' : Controller σ) (tick : CoolingTick)
    (h : c.tickSecond = .ok (tick, c')) (critical : tick.critical.isSome) :
    c'.forcePending = true ∧ c'.agenda.isPending .thermalFanOverride = true ∧
      c'.cooling.inShutdown = true := by
  obtain ⟨cooling, p, fans, delay, ticked, _, rfl⟩ := tickSecond_stages h
  have begun : tick.recovery = none ∧ cooling.inShutdown = true := by
    rcases Cooling.tick_cases _ _ _ _ _ _ _ ticked with ⟨_, none, _, _, hot⟩ | ⟨calm, _⟩ | ⟨calm, _⟩
    · exact ⟨none, hot⟩
    all_goals simp [calm] at critical
  rw [forcePending, (fansWorked_fields _ _).2.2.2, (fansWorked_fields _ _).2.2.1,
    (followed_fields _ _ _).2.2.2]
  simp only [followed, followRecovery, critical, ↓reduceIte, begun.1]
  simp [armShutdown, schedule, Agenda.isPending_schedule_of_ne, begun.2]

/-- Any other tick leaves the agenda and the latch as they are, and begins no shutdown. -/
theorem tickSecond_calm (c c' : Controller σ) (tick : CoolingTick)
    (h : c.tickSecond = .ok (tick, c')) (calm : tick.critical = none) :
    c'.agenda = c.agenda ∧ c'.forcing = c.forcing ∧
      (c'.cooling.inShutdown = true → c.cooling.inShutdown = true) := by
  obtain ⟨cooling, p, fans, delay, ticked, _, rfl⟩ := tickSecond_stages h
  let d : Controller σ := { c.withPlant p with cooling, fans }
  obtain ⟨sequencer, _, same, agenda⟩ := (d.followed tick delay).fansWorked_fields c.now
  obtain ⟨_, latch, _, same'⟩ := d.followed_fields tick delay
  refine ⟨agenda.trans (d.followed_agenda tick delay calm), ?_, fun lasts => ?_⟩
  · rw [forcing, sequencer]
    exact latch
  · rw [same, same'] at lasts
    rcases Cooling.tick_cases _ _ _ _ _ _ _ ticked with
      ⟨critical, _⟩ | ⟨_, _, before, _⟩ | ⟨_, _, kept⟩
    · simp [calm] at critical
    · exact before
    · exact kept ▸ lasts

def Held (c : Controller σ) : Prop := c.cooling.inShutdown = true → c.Doomed

omit [Board σ] in
theorem HoldsOn.held {c c' : Controller σ} (h : HoldsOn c c') (held : c.Held) : c'.Held :=
  fun lasts => h.doomed (held (h.entered lasts))

theorem command_holds (c c' : Controller σ) (fan : FanId) (command : FanCommand)
    (h : c.command fan command = .ok c') : HoldsOn c c' := by
  obtain ⟨sequencer, _, cooling, agenda, _⟩ := c.command_fields fan command h
  exact .of_same agenda (fun set => by rwa [forcing, sequencer]) cooling

theorem apply_held (c c' : Controller σ) (input : Input σ) (held : c.Held)
    (h : c.apply input = .ok c') :
    c'.Held ∨ (c.powerState = .g3s5 ∧ c.cooling.inShutdown = true) := by
  have kept : HoldsOn c c' → c'.Held ∨ (c.powerState = .g3s5 ∧ c.cooling.inShutdown = true) :=
    fun holds => .inl (holds.held held)
  cases input with
  | init store reset =>
    cases h
    obtain ⟨agenda, latch, inShutdown, _⟩ := c.init_fields store reset
    refine kept ⟨fun lasts => by rwa [inShutdown] at lasts, fun pending => .inl ?_, fun set => ?_⟩
    · rwa [forcePending, agenda]
    · exact latch.trans set
  | powerButton pressed time =>
    cases h
    exact kept (c.powerButtonChanged_asks pressed time).holds
  | resetButton pressed time =>
    cases h
    exact kept (c.resetButtonChanged_asks pressed time).holds
  | watchdog time =>
    cases h
    exact kept (c.watchdogExpired_asks time).holds
  | feedback =>
    cases h
    exact kept (.of_same rfl id rfl)
  | powerOn =>
    cases h
    exact kept c.requestPowerOn_asks.holds
  | shutDown reason =>
    cases h
    exact kept (c.forceShutdown_holds reason).1
  | reset reason =>
    cases h
    exact kept (c.reset_holds reason)
  | faults =>
    cases h
    exact kept c.serviceFaults_holds
  | step =>
    cases h
    by_cases rising : c.powerState = .g3s5
    · by_cases lasts : c.cooling.inShutdown = true
      · exact .inr ⟨rising, lasts⟩
      · refine .inl fun lasts' => absurd ?_ lasts
        rwa [stepPower_cooling] at lasts'
    · exact kept (c.stepPower_holds rising)
  | poll =>
    cases h
    exact kept (runDue_holds _ c)
  | tick =>
    obtain ⟨tick, ticked⟩ := apply_tick h
    cases critical : tick.critical with
    | none =>
      obtain ⟨agenda, latch, entered⟩ := c.tickSecond_calm c' tick ticked critical
      exact kept ⟨entered, fun pending => .inl (by rwa [forcePending, agenda]),
        fun set => latch.trans set⟩
    | some zone =>
      exact .inl fun _ => .inl (c.tickSecond_critical c' tick ticked (by simp [critical])).1
  | fan fan command => exact kept (c.command_holds c' fan command h)
  | wait | outside =>
    cases h
    exact kept (.of_same rfl id rfl)

/-- The AP was started on the way from G3 while the controller was in the thermal shutdown that
it is in still. -/
def StartedHot (start c : Controller σ) : Prop :=
  ∃ d, Reaches start d ∧ d.powerState = .g3s5 ∧ d.cooling.inShutdown = true ∧
    Run (fun _ e => e.cooling.inShutdown = true) d c

theorem StartedHot.lasts {start c : Controller σ} (h : StartedHot start c) :
    c.cooling.inShutdown = true := by
  obtain ⟨d, _, _, hot, since⟩ := h
  cases since with
  | start => exact hot
  | next _ _ _ held => exact held

theorem run_held {start c : Controller σ} (calm : start.cooling.inShutdown = false)
    (run : Reaches start c) : c.Held ∨ StartedHot start c := by
  -- On the run, what is held stays held unless a step out of G3 lets go of it. From there on the
  -- flag tells whether it is still the same shutdown.
  induction run with
  | start => exact .inl fun lasts => by rw [calm] at lasts; cases lasts
  | @next c c' input before applied _ ih =>
    by_cases lasts : c'.cooling.inShutdown = true
    · rcases ih with held | ⟨d, reached, rising, hot, since⟩
      · rcases c.apply_held c' input held applied with held' | ⟨rising, hot⟩
        · exact .inl held'
        · exact .inr ⟨c, before, rising, hot, .next input .start applied lasts⟩
      · exact .inr ⟨d, reached, rising, hot, .next input since applied lasts⟩
    · exact .inl fun lasts' => absurd lasts' lasts

def Hot (c : Controller σ) : Prop :=
  ∃ z celsius, (z, some celsius) ∈ (Cooling.readZones c.now c.cooling.zones c.plant).1 ∧
    z.cooling = true ∧ z.definition.thresholds.critical ≤ celsius

theorem hot_iff (c : Controller σ) : c.Hot ↔
    (Cooling.readZones c.now c.cooling.zones c.plant).1.any Cooling.isCritical = true := by
  rw [List.any_eq_true]
  constructor
  · rintro ⟨z, celsius, read, cools, critical⟩
    exact ⟨_, read, (Cooling.isCritical_iff z _).2 ⟨celsius, rfl, cools, critical⟩⟩
  · rintro ⟨⟨z, reading⟩, read, critical⟩
    obtain ⟨celsius, rfl, cools, critical⟩ := (Cooling.isCritical_iff z reading).1 critical
    exact ⟨z, celsius, read, cools, critical⟩

instance : DecidablePred (Hot (σ := σ)) := fun c => decidable_of_iff _ c.hot_iff.symm

/-- A critical temperature brings a running AP down: after the tick that reads it the forced
shutdown is pending or the latch is set. The one exception is an AP that was started during the
thermal shutdown that still goes on, and that nothing was bringing down before. With an ordered
configuration the tick is always done. -/
theorem critical_brings_down (layout : BoardLayout) (fanCount : Nat) (config : ControllerConfig)
    (board : σ) (c : Controller σ) (run : Reaches (fresh layout fanCount config board) c)
    (up : c.powerState = .s0) (hot : c.Hot) :
    (∀ tick c', c.tickSecond = .ok (tick, c') →
      ((c'.forcePending = true ∨ c'.forcing = true) ↔
        ¬ (StartedHot (fresh layout fanCount config board) c ∧
          c.forcePending = false ∧ c.forcing = false))) ∧
      (config.Ordered → ∃ tick c', c.tickSecond = .ok (tick, c')) := by
  constructor
  · intro tick c' ticked
    by_cases lasts : c.cooling.inShutdown = true
    -- The tick is silent and leaves pending and latch as they were, so the run before it decides.
    · have calm : tick.critical = none := by
        obtain ⟨_, _, _, _, cooled, _⟩ := tickSecond_stages ticked
        rcases Cooling.tick_cases _ _ _ _ _ _ _ cooled with ⟨_, _, clear, _⟩ | ⟨calm, _⟩ | ⟨calm, _⟩
        · rw [clear] at lasts
          cases lasts
        all_goals exact calm
      obtain ⟨agenda, latch, _⟩ := c.tickSecond_calm c' tick ticked calm
      have same : c'.forcePending = c.forcePending := by rw [forcePending, agenda, forcePending]
      rw [same, latch]
      constructor
      · rintro (pending | set) ⟨_, unarmed, clear⟩
        · rw [unarmed] at pending
          cases pending
        · rw [clear] at set
          cases set
      · intro cold
        rcases run_held rfl run with held | started
        · exact held lasts
        · by_contra idle
          simp only [not_or, Bool.not_eq_true] at idle
          exact cold ⟨started, idle⟩
    · have critical : tick.critical.isSome := by
        obtain ⟨_, _, _, _, cooled, _⟩ := tickSecond_stages ticked
        refine Cooling.tick_reports _ _ _ _ _ _ _ cooled (by simpa using lasts) ?_ ?_
        · simp [coolingInputs, up]
        · simpa using c.hot_iff.1 hot
      have armed := (c.tickSecond_critical c' tick ticked critical).1
      exact ⟨fun _ ⟨started, _⟩ => lasts started.lasts, fun _ => .inl armed⟩
  · intro ordered
    obtain ⟨tick, c', ticked, _⟩ :=
      (run.ordered (fresh_ordered layout fanCount board ordered)).tickSecond
    exact ⟨tick, c', ticked⟩

/-- A hot start, the shutdown that follows, and another start with the power button, while the AP is
as hot as before. -/
def hotRestart : List (Input Bench) :=
  hotStart ++ [.tick, .outside fun b => b.change { advance := 3000000 }, .poll] ++
    List.replicate 6 .step ++
    [.powerButton true Instant.zero, .powerButton false Instant.zero] ++ List.replicate 6 .step

theorem carrier_brought_down :
    ∃ c, along (fun _ _ => true) hotStart carrier = some c ∧ c.powerState = .s0 ∧ c.Hot ∧
      ¬ StartedHot carrier c ∧
      ∃ tick c', c.tickSecond = .ok (tick, c') ∧ (c'.forcePending = true ∨ c'.forcing = true) := by
  obtain ⟨c, started, up, calm, hot⟩ : ∃ c, along (fun _ _ => true) hotStart carrier = some c ∧
      c.powerState = .s0 ∧ c.cooling.inShutdown = false ∧ c.Hot := by
    decide +kernel
  have cold : ¬ StartedHot carrier c := fun started => by
    have lasts := started.lasts
    rw [calm] at lasts
    cases lasts
  obtain ⟨down, total⟩ := critical_brings_down Carrier.layout Carrier.fanCount
    ControllerConfig.builtIn Carrier.bench c (along_reaches hotStart carrier c started) up hot
  obtain ⟨tick, c', ticked⟩ := total ControllerConfig.builtIn_ordered
  exact ⟨c, started, up, hot, cold, tick, c', ticked,
    (down tick c' ticked).2 fun ⟨started, _⟩ => cold started⟩

/-- The AP that was started hot runs on: the tick reads a critical temperature, and nothing brings
the AP down. -/
theorem carrier_runs_on_hot :
    ∃ c, along (fun _ _ => true) hotRestart carrier = some c ∧ Reaches carrier c ∧
      c.powerState = .s0 ∧ c.Hot ∧
      ∃ tick c', c.tickSecond = .ok (tick, c') ∧
        ¬ (c'.forcePending = true ∨ c'.forcing = true) := by
  obtain ⟨c, restarted, up, hot, ⟨tick, c'⟩, ticked, idle⟩ :
      ∃ c, along (fun _ _ => true) hotRestart carrier = some c ∧ c.powerState = .s0 ∧ c.Hot ∧
        ∃ done, c.tickSecond = .ok done ∧ ¬ (done.2.forcePending = true ∨ done.2.forcing = true) := by
    decide +kernel
  exact ⟨c, restarted, along_reaches hotRestart carrier c restarted, up, hot, tick, c', ticked, idle⟩

end BoardWarden.Controller
