import BoardWarden.Proofs.Controller.Descent
import BoardWarden.Proofs.Controller.Fans
import BoardWarden.Proofs.Controller.Feed
import BoardWarden.Proofs.Controller.Order

set_option autoImplicit false

namespace BoardWarden.Controller

variable {σ : Type}

def overridePending (c : Controller σ) : Bool := c.agenda.isPending .thermalFanOverride

structure Cooled (rail : RailId) (duty : Nat) (c : Controller σ) : Prop where
  entry : c.rig.rails.state? rail = some .on
  fans : c.fans.All (FanChannel.Overridden duty)

/-- Below S3 the fans have an override to come or to live on, or they are off for good. -/
def Outlook (rail : RailId) (duty : Nat) (kept : Bool) (c : Controller σ) : Prop :=
  match kept with
  | true => c.overridePending = false → c.Cooled rail duty
  | false => c.overridePending = false ∧ c.fans.All FanChannel.Off

structure Spares (rail : RailId) (c c' : Controller σ) : Prop where
  pending : c'.overridePending = c.overridePending
  entry : c.rig.rails.state? rail = some .on → c'.rig.rails.state? rail = some .on
  fans : ∀ P, FanChannel.Lasting P → c.fans.All P → c'.fans.All P

theorem Spares.of_same {rail : RailId} {c c' : Controller σ}
    (pending : c'.overridePending = c.overridePending) (rails : c'.rig.rails = c.rig.rails)
    (fans : c'.fans = c.fans) : Spares rail c c' :=
  ⟨pending, fun h => by rwa [rails], fun _ _ h => by rwa [fans]⟩

theorem Spares.trans {rail : RailId} {c d e : Controller σ} (h : Spares rail c d)
    (h' : Spares rail d e) : Spares rail c e :=
  ⟨h'.pending.trans h.pending, fun on => h'.entry (h.entry on),
    fun P lasting all => h'.fans P lasting (h.fans P lasting all)⟩

theorem Outlook.spared {rail : RailId} {duty : Nat} {kept : Bool} {c c' : Controller σ}
    (h : c.Outlook rail duty kept) (spares : Spares rail c c') : c'.Outlook rail duty kept := by
  cases kept with
  | true =>
    intro done
    rw [spares.pending] at done
    have cooled := h done
    exact ⟨spares.entry cooled.entry, spares.fans _ (FanChannel.overridden_lasting duty) cooled.fans⟩
  | false => exact ⟨spares.pending.trans h.1, spares.fans _ FanChannel.off_lasting h.2⟩

variable [Board σ]

/-- Inputs that neither start the controller again nor order its fans about. -/
def Input.unmanned : Input σ → Bool
  | .init _ _ | .fan _ _ => false
  | _ => true

/-- What reaches a controller that nobody starts again, whose fans nobody orders about, that nobody
asks for power, and whose thermal shutdown goes on. -/
structure Aftermath (row : Rail) (good : σ → Prop) (input : Input σ) (c : Controller σ) :
    Prop where
  gentle : Gentle row good input
  unmanned : input.unmanned = true
  hot : c.cooling.inShutdown = true
  unasked : c.sequencer.exitRequested = false

variable {layout : BoardLayout} {config : ControllerConfig} {rail : RailId} {row : Rail}
  {good : σ → Prop} {c c' : Controller σ}

theorem Ready.serviceFaults_spares (ready : Ready layout config rail row good c)
    (steady : (fanFeed layout config rail).Steady row good) : Spares rail c c.serviceFaults.2 := by
  obtain ⟨_, _, _, _, agenda, fans⟩ := c.serviceFaults_fields
  refine ⟨?_, (ready.serviceFaults steady).2, fun _ _ h => by rwa [fans]⟩
  rw [overridePending, agenda, overridePending]

theorem Ready.override_cools (ready : Ready layout config rail row good c)
    (steady : (fanFeed layout config rail).Steady row good) :
    c.runFanOverride.Cooled rail config.cooling.overrideDuty := by
  have confirms : (c.rig.powerOn rail Span.zero c.config.cooling.fanSupplyTimeout).1 = .ok () := by
    rw [ready.config]
    exact steady.confirms c.rig ready.fed.table ready.fed.timing ready.fed.good ready.fed.entry
  have on := c.rig.powerOn_on rail Span.zero c.config.cooling.fanSupplyTimeout confirms
  simp only [Controller.runFanOverride, ready.supply, confirms]
  refine ⟨on, ?_⟩
  rw [ready.config]
  exact overrideFans_all _ _ _

omit [Board σ] in
theorem Asks.spares (rail : RailId) (asks : Asks c c') : Spares rail c c' :=
  .of_same (asks.pending _ (.inr rfl)) (by rw [asks.rig]) asks.fans

theorem runAction_spares (c : Controller σ) (rail : RailId) (action : DeferredAction)
    (other : action ≠ .thermalFanOverride) : Spares rail c (c.runAction action) := by
  cases action with
  | forceShutdown | thermalForceShutdown => exact .of_same rfl rfl rfl
  | forceReset =>
    simp only [runAction, runReset]
    split <;> exact .of_same rfl rfl rfl
  | thermalFanOverride => exact absurd rfl other

theorem Outlook.runAction {kept : Bool} {action : DeferredAction} {agenda : Agenda}
    (h : c.Outlook rail config.cooling.overrideDuty kept)
    (ready : Ready layout config rail row good c)
    (steady : (fanFeed layout config rail).Steady row good)
    (taken : c.agenda.takeExpired c.now = some (action, agenda)) :
    ({ c with agenda }.runAction action).Outlook rail config.cooling.overrideDuty kept := by
  obtain ⟨rfl, deadline, armed, _⟩ := Agenda.takeExpired_spec _ _ _ _ taken
  by_cases override : action = .thermalFanOverride
  · subst override
    -- What is taken was armed, so with the fans off for good there is no override to take.
    have pending : c.overridePending = true := by
      rw [overridePending, Agenda.isPending, armed]
      rfl
    cases kept with
    | true =>
      have still : Ready layout config rail row good
          { c with agenda := c.agenda.set .thermalFanOverride none } :=
        ⟨ready.fed, ready.supply, ready.config⟩
      exact fun _ => still.override_cools steady
    | false =>
      rw [h.1] at pending
      cases pending
  · have dropped : Spares rail c { c with agenda := c.agenda.set action none } :=
      .of_same (Agenda.isPending_set_of_ne _ (Ne.symm override) _) rfl rfl
    exact h.spared (dropped.trans (runAction_spares _ rail action override))

theorem Outlook.runDue {kept : Bool} (count : Nat)
    (h : c.Outlook rail config.cooling.overrideDuty kept)
    (ready : Ready layout config rail row good c)
    (steady : (fanFeed layout config rail).Steady row good) :
    (runDue count c).2.Outlook rail config.cooling.overrideDuty kept := by
  induction count generalizing c with
  | zero => exact h
  | succ count ih =>
    simp only [Controller.runDue]
    split
    · exact h
    · rename_i action agenda taken
      have still : Ready layout config rail row good { c with agenda } :=
        ⟨ready.fed, ready.supply, ready.config⟩
      exact ih (h.runAction ready steady taken) (still.runAction steady action)

theorem demandFans_spares (rail : RailId) (demand : Option Nat)
    (asked : c.applyDemand demand = .ok c') : Spares rail c c' := by
  cases demand with
  | none =>
    cases asked
    exact .of_same rfl rfl rfl
  | some percent =>
    obtain ⟨fans, demanded, rfl⟩ := map_ok asked
    have one := (FanBank.demandWithinWords_ok demanded).2
    exact ⟨rfl, id, fun P lasting h => FanBank.All.demandOf lasting percent c.plant _ h one⟩

theorem fansWorked_spares (c : Controller σ) (rail : RailId) (time : Instant) :
    Spares rail c (c.fansWorked time) := by
  obtain ⟨_, rails, _, agenda⟩ := c.fansWorked_fields time
  refine ⟨by rw [overridePending, agenda, overridePending], fun on => by rwa [rails], ?_⟩
  intro P lasting h
  rw [← c.fanPowerGood_fields.2.2.2.2] at h
  exact (h.healthTick lasting _ _ _).controlTick lasting _ _ _

theorem tickSecond_silent (rail : RailId) (tick : CoolingTick)
    (ticked : c.tickSecond = .ok (tick, c')) (calm : tick.critical = none)
    (lasting : tick.recovery = none) : Spares rail c c' := by
  obtain ⟨cooling, p, fans, delay, _, asked, rfl⟩ := tickSecond_stages ticked
  let d : Controller σ := { c.withPlant p with cooling, fans }
  have followed : d.followed tick delay = d := by
    simp only [Controller.followed, Controller.followRecovery, calm, lasting]
    rfl
  have read : Spares rail c { c.withPlant p with cooling } := .of_same rfl rfl rfl
  have demanded : Spares rail { c.withPlant p with cooling } d := demandFans_spares rail _ asked
  rw [followed]
  exact (read.trans demanded).trans (d.fansWorked_spares rail c.now)

theorem tickSecond_spares (rail : RailId) (tick : CoolingTick)
    (ticked : c.tickSecond = .ok (tick, c')) (hot : c.cooling.inShutdown = true)
    (hot' : c'.cooling.inShutdown = true) : Spares rail c c' := by
  obtain ⟨cooling, p, fans, delay, cooled, _, same⟩ := tickSecond_stages ticked
  have kept : c'.cooling = cooling := by
    rw [same, (fansWorked_fields _ _).2.2.1, (followed_fields _ _ _).2.2.2]
  -- A report would have changed the flag.
  rcases Cooling.tick_cases _ _ _ _ _ _ _ cooled with
    ⟨_, _, clear, _⟩ | ⟨_, _, _, _, ended⟩ | ⟨critical, recovery, _⟩
  · rw [hot] at clear
    cases clear
  · rw [kept, ended] at hot'
    cases hot'
  · exact tickSecond_silent rail tick ticked critical recovery

omit [Board σ] in
theorem unmanned_running {input : Input σ} (unmanned : input.unmanned = true) :
    ∀ store reset, input ≠ .init store reset := by
  rintro store reset rfl
  cases unmanned

theorem Outlook.apply {kept : Bool} (h : c.Outlook rail config.cooling.overrideDuty kept)
    (ready : Ready layout config rail row good c)
    (steady : (fanFeed layout config rail).Steady row good) (hot : c.cooling.inShutdown = true)
    (input : Input σ) (still : input ≠ .step) (held : Aftermath row good input c')
    (applied : c.apply input = .ok c') : c'.Outlook rail config.cooling.overrideDuty kept := by
  have unmanned := held.unmanned
  cases input with
  | init | fan => cases unmanned
  | step => exact absurd rfl still
  | powerButton pressed time =>
    cases applied
    exact h.spared ((c.powerButtonChanged_asks pressed time).spares rail)
  | resetButton pressed time =>
    cases applied
    exact h.spared ((c.resetButtonChanged_asks pressed time).spares rail)
  | watchdog time =>
    cases applied
    exact h.spared ((c.watchdogExpired_asks time).spares rail)
  | feedback =>
    cases applied
    exact h.spared ⟨rfl, id, fun _ _ => id⟩
  | powerOn | shutDown | reset | wait | outside =>
    cases applied
    exact h.spared (.of_same rfl rfl rfl)
  | faults =>
    cases applied
    exact h.spared (ready.serviceFaults_spares steady)
  | poll =>
    cases applied
    exact h.runDue _ ready steady
  | tick =>
    obtain ⟨tick, ticked⟩ := apply_tick applied
    exact h.spared (tickSecond_spares rail tick ticked hot held.hot)

theorem pulled_pending (c : Controller σ) :
    c.work.pullThermalForward.overridePending = c.overridePending := by
  have worked : c.work.agenda = c.agenda := c.serviceFaults_fields.2.2.2.2.1
  simp only [overridePending, pullThermalForward]
  split
  · simp [worked]
  · rw [worked]

theorem stepPower_outlook (c : Controller σ) (last : c.powerState = .s3s5) (rail : RailId)
    (duty : Nat) : c.stepPower.Outlook rail duty c.overridePending := by
  have next := c.stepPower_lowers last
  have pulled := c.pulled_pending
  have arrived : c.work.pullThermalForward.powerState = .s5 := by
    rw [powerState, stepPower_sequencer] at next
    rwa [powerState, (pullThermalForward_fields _).1]
  have disabled : c.stepPower = c.work.pullThermalForward.disableFans := by
    rw [stepPower_work]
    simp [switchFans, arrived, last]
  rw [disabled]
  simp only [disableFans]
  change Agenda.isPending _ _ = _ at pulled
  rw [pulled]
  cases pending : c.overridePending with
  | true =>
    rw [if_pos rfl]
    intro done
    change Agenda.isPending _ _ = _ at done
    rw [pulled, pending] at done
    cases done
  | false =>
    rw [if_neg Bool.false_ne_true]
    refine ⟨?_, enableFans_off _⟩
    change Agenda.isPending _ _ = _
    rw [(enableFans_fields _ _).2.2.2, pulled, pending]

theorem stepPower_spares (low : c.powerState ∈ bottom)
    (ready : Ready layout config rail row good c)
    (steady : (fanFeed layout config rail).Steady row good) : Spares rail c c.stepPower := by
  have serviced := ready.serviceFaults_spares steady
  have unmoved : c.work.rig.rails = c.serviceFaults.2.rig.rails := by
    have state : c.serviceFaults.2.sequencer.state ∈ bottom := by
      rw [← powerState, c.serviceFaults_stays.state]
      exact low
    change (Sequencer.handle _ _).2.rails = _
    rw [Sequencer.handle_rails]
    simp only [bottom, List.mem_cons, List.not_mem_nil, or_false] at state
    rcases state with hs | hs | hs | hs <;> simp only [Sequencer.next, hs]
    split <;> rfl
  have unswitched : c.stepPower = c.work.pullThermalForward := by
    have arrived : c.work.pullThermalForward.powerState = c.stepPower.powerState := by
      rw [powerState, powerState, stepPower_sequencer, (pullThermalForward_fields _).1]
    have off : c.work.pullThermalForward.powerState ≠ .s0 := by
      have move := c.stepPower_moves
      rw [arrived]
      intro hs
      rw [hs] at move
      generalize c.powerState = s, c.serviceFaults.2.forcing = f, c.stepPower.forcing = f'
        at move low
      cases move <;> simp [bottom] at low
    have origin : c.powerState ≠ .s3s5 := by
      intro hs
      simp [hs, bottom] at low
    rw [stepPower_work]
    simp [switchFans, off, origin]
  obtain ⟨_, rig, _, fans⟩ := c.work.pullThermalForward_fields
  rw [unswitched]
  refine ⟨c.pulled_pending, fun on => ?_, fun P lasting all => ?_⟩
  · rw [rig, unmoved]
    exact serviced.entry on
  · rw [fans]
    exact serviced.fans P lasting all

end BoardWarden.Controller
