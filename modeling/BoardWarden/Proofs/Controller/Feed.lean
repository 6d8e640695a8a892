import BoardWarden.Proofs.Controller.Fields
import BoardWarden.Proofs.Rail.Supply

set_option autoImplicit false

namespace BoardWarden.Controller

open Settings (Store)

variable {σ : Type} [Board σ]

def fanFeed (layout : BoardLayout) (config : ControllerConfig) (rail : RailId) : Supply :=
  { table := layout.rails.take Rail.limit
    timing := config.rails
    rail
    timeout := config.cooling.fanSupplyTimeout }

def Gentle (row : Rail) (good : σ → Prop) : Input σ → Prop
  | .outside change => ∀ b, good b → good (change b) ∧ (Lit row b → Lit row (change b))
  | _ => True

structure Ready (layout : BoardLayout) (config : ControllerConfig) (rail : RailId) (row : Rail)
    (good : σ → Prop) (c : Controller σ) : Prop where
  fed : (fanFeed layout config rail).Fed row good c.rig
  supply : c.fanSupply = some rail
  config : c.config = config

section Steps

variable {layout : BoardLayout} {config : ControllerConfig} {rail : RailId} {row : Rail}
  {good : σ → Prop} {c c' : Controller σ}

theorem fresh_ready (fanCount : Nat) (board : σ) (supplied : layout.fanSupply = some rail)
    (steady : (fanFeed layout config rail).Steady row good) (fine : good board) :
    Ready layout config rail row good (fresh layout fanCount config board) where
  fed := by
    have listed := steady.listed
    have entry : (RailBank.ofTable layout.rails config.rails).state? rail = some .off := by
      simp only [RailBank.state?, RailBank.ofTable]
      rw [List.getElem?_map]
      change (layout.rails.take Rail.limit)[rail.index]? = _ at listed
      rw [listed]
      rfl
    refine ⟨rfl, rfl, ?_, fine, fun on => ?_⟩
    · exact Option.isSome_iff_exists.2 ⟨_, entry⟩
    · cases entry.symm.trans on
  supply := supplied
  config := rfl

theorem Ready.quiet (steady : (fanFeed layout config rail).Steady row good)
    (h : Ready layout config rail row good c) (rails : c'.rig.rails = c.rig.rails)
    (quiet : Quiet c.board c'.board) (supply : c'.fanSupply = c.fanSupply)
    (same : c'.config = c.config) : Ready layout config rail row good c' where
  fed := by
    have fed := h.fed.quiet steady c'.rig.plant quiet
    rw [← rails] at fed
    exact fed
  supply := supply.trans h.supply
  config := same.trans h.config

theorem Ready.rig (h : Ready layout config rail row good c) (r : Rig σ)
    (fed : (fanFeed layout config rail).Fed row good r) :
    Ready layout config rail row good { c with rig := r } :=
  ⟨fed, h.supply, h.config⟩

theorem flag_fed {s : Supply} {r : Rig σ} (h : s.Fed row good r) (pending : Bool) :
    s.Fed row good { r with rails := { r.rails with faultCheckPending := pending } } :=
  ⟨h.table, h.timing, h.entry, h.good, h.lit⟩

theorem Ready.init (steady : (fanFeed layout config rail).Steady row good)
    (h : Ready layout config rail row good c) (store : Store) (reset : ResetFlags) :
    Ready layout config rail row good (c.init store reset) := by
  let adopted : Controller σ := { c with rig := c.rig.adoptLive }
  have live : Ready layout config rail row good adopted := h.rig _ (h.fed.adoptLive steady)
  let loaded := adopted.loadSettings store c.now
  obtain ⟨_, rails, board, _⟩ := adopted.loadSettings_fields store c.now
  obtain ⟨supply, same⟩ := adopted.loadSettings_serves store c.now
  have ready : Ready layout config rail row good loaded := by
    refine live.quiet steady rails ?_ supply same
    rw [board]
    exact .none
  have started := loaded.sequencer.chipsetInit_quiet loaded.rig.rails reset loaded.flags.autoboot
    loaded.plant
  simp only [Controller.init]
  split
  · exact ready.quiet steady rfl (started.trans (setFans_quiet true _ _ _)) rfl rfl
  · exact ready.quiet steady rfl started rfl rfl

theorem Ready.serviceFaults (steady : (fanFeed layout config rail).Steady row good)
    (h : Ready layout config rail row good c) :
    Ready layout config rail row good c.serviceFaults.2 ∧
      (c.rig.rails.state? rail = some .on →
        c.serviceFaults.2.rig.rails.state? rail = some .on) := by
  obtain ⟨fed, stays⟩ := Supply.Fed.demoteFaulted steady c.rig.rails.rails (flag_fed h.fed false)
  have checked : Ready layout config rail row good { c with rig := c.rig.runFaultCheck.2 } :=
    h.rig _ fed
  simp only [Controller.serviceFaults]
  split
  · split
    · exact ⟨checked, stays⟩
    -- A forced shutdown writes to the sequencer and the journal only.
    · exact ⟨checked.quiet steady rfl .none rfl rfl, stays⟩
  · exact ⟨h, id⟩

theorem switchFans_quiet (c : Controller σ) (origin : PowerState) :
    Quiet c.board (c.switchFans origin).board := by
  simp only [switchFans, disableFans]
  repeat' split
  all_goals first
    | exact .none
    | exact setFans_quiet _ _ _ _

theorem Ready.stepPower (steady : (fanFeed layout config rail).Steady row good)
    (h : Ready layout config rail row good c) : Ready layout config rail row good c.stepPower := by
  have checked := (h.serviceFaults steady).1
  have worked : Ready layout config rail row good c.work :=
    ⟨checked.fed.work steady (Sequencer.handle_work _ _), checked.supply, checked.config⟩
  obtain ⟨_, rig, _, _⟩ := c.work.pullThermalForward_fields
  obtain ⟨supply, same⟩ := pullThermalForward_serves c.work
  have pulled : Ready layout config rail row good c.work.pullThermalForward := by
    refine worked.quiet steady (by rw [rig]) ?_ supply same
    change Quiet c.work.rig.plant.board c.work.pullThermalForward.rig.plant.board
    rw [rig]
    exact .none
  obtain ⟨_, rails, _, _⟩ := c.work.pullThermalForward.switchFans_fields c.powerState
  obtain ⟨supply, same⟩ := switchFans_serves c.work.pullThermalForward c.powerState
  rw [stepPower_work]
  exact pulled.quiet steady rails (switchFans_quiet _ _) supply same

theorem Ready.runFanOverride (steady : (fanFeed layout config rail).Steady row good)
    (h : Ready layout config rail row good c) :
    Ready layout config rail row good c.runFanOverride := by
  have powered := h.fed.powerOn steady rail Span.zero c.config.cooling.fanSupplyTimeout
  simp only [Controller.runFanOverride, h.supply]
  split
  · exact ⟨powered, rfl, h.config⟩
  · exact ⟨powered.quiet steady _ (overrideFans_quiet _ _ _ _), rfl, h.config⟩

theorem Ready.runAction (steady : (fanFeed layout config rail).Steady row good)
    (h : Ready layout config rail row good c) (action : DeferredAction) :
    Ready layout config rail row good (c.runAction action) := by
  cases action with
  | forceShutdown | thermalForceShutdown => exact h.quiet steady rfl .none rfl rfl
  | forceReset =>
    have pulsed := c.sequencer.reset_quiet
      (if c.watchdogReset then .watchdog else .resetButton) c.plant
    simp only [Controller.runAction, runReset]
    split
    all_goals
      rename_i watchdog
      simp only [watchdog] at pulsed
      exact h.quiet steady rfl pulsed rfl rfl
  | thermalFanOverride => exact h.runFanOverride steady

theorem Ready.runDue (steady : (fanFeed layout config rail).Steady row good) (count : Nat)
    (h : Ready layout config rail row good c) :
    Ready layout config rail row good (runDue count c).2 := by
  induction count generalizing c with
  | zero => exact h
  | succ count ih =>
    simp only [Controller.runDue]
    split
    · exact h
    · rename_i action agenda _
      have taken : Ready layout config rail row good { c with agenda } := ⟨h.fed, h.supply, h.config⟩
      exact ih (taken.runAction steady action)

theorem followed_quiet (c : Controller σ) (tick : CoolingTick) (delay : Span) :
    let d := c.followed tick delay
    Quiet c.board d.board ∧ d.fanSupply = c.fanSupply ∧ d.config = c.config := by
  simp only [followed, followRecovery, recover]
  repeat' split
  all_goals first
    | exact ⟨.none, rfl, rfl⟩
    | exact ⟨c.askDown_quiet, rfl, rfl⟩

theorem Ready.tickSecond (steady : (fanFeed layout config rail).Steady row good)
    (h : Ready layout config rail row good c) (tick : CoolingTick)
    (ticked : c.tickSecond = .ok (tick, c')) : Ready layout config rail row good c' := by
  obtain ⟨cooling, p, fans, delay, cooled, _, rfl⟩ := tickSecond_stages ticked
  let d : Controller σ := { c.withPlant p with cooling, fans }
  have read : Ready layout config rail row good d :=
    h.quiet steady rfl (Cooling.tick_quiet _ _ _ _ _ _ _ cooled) rfl rfl
  obtain ⟨quiet, supply, same⟩ := followed_quiet d tick delay
  have followed : Ready layout config rail row good (d.followed tick delay) :=
    read.quiet steady (d.followed_fields tick delay).2.2.1 quiet supply same
  obtain ⟨supply, same⟩ := fansWorked_serves (d.followed tick delay) c.now
  exact followed.quiet steady (fansWorked_fields _ _).2.1 (fansWorked_quiet _ _) supply same

theorem Ready.asked (h : Ready layout config rail row good c) (asks : Asks c c') :
    Ready layout config rail row good c' :=
  ⟨by rw [asks.rig]; exact h.fed, asks.supply.trans h.supply, asks.config.trans h.config⟩

theorem Ready.apply (steady : (fanFeed layout config rail).Steady row good)
    (h : Ready layout config rail row good c) (input : Input σ) (gentle : Gentle row good input)
    (applied : c.apply input = .ok c') : Ready layout config rail row good c' := by
  cases input with
  | init store reset =>
    cases applied
    exact h.init steady store reset
  | powerButton pressed time =>
    cases applied
    exact h.asked (c.powerButtonChanged_asks pressed time)
  | resetButton pressed time =>
    cases applied
    exact h.asked (c.resetButtonChanged_asks pressed time)
  | watchdog time =>
    cases applied
    exact h.asked (c.watchdogExpired_asks time)
  | powerOn =>
    cases applied
    exact h.asked c.requestPowerOn_asks
  | feedback =>
    cases applied
    exact ⟨flag_fed h.fed true, h.supply, h.config⟩
  | shutDown =>
    cases applied
    exact h.quiet steady rfl .none rfl rfl
  | reset reason =>
    cases applied
    exact h.quiet steady rfl (c.sequencer.reset_quiet reason c.plant) rfl rfl
  | faults =>
    cases applied
    exact (h.serviceFaults steady).1
  | step =>
    cases applied
    exact h.stepPower steady
  | poll =>
    cases applied
    exact h.runDue steady _
  | tick =>
    obtain ⟨tick, ticked⟩ := apply_tick applied
    exact h.tickSecond steady tick ticked
  | fan fan command =>
    obtain ⟨_, rails, _, _, supply, same, quiet⟩ := c.command_fields fan command applied
    exact h.quiet steady rails quiet supply same
  | wait span =>
    cases applied
    exact h.quiet steady rfl (.one c.board (.sleep span) rfl) rfl rfl
  | outside change =>
    cases applied
    obtain ⟨fine, lit⟩ := gentle c.board h.fed.good
    refine ⟨⟨h.fed.table, h.fed.timing, h.fed.entry, fine, fun on => lit (h.fed.lit on)⟩, h.supply,
      h.config⟩

end Steps

theorem Run.ready {layout : BoardLayout} {config : ControllerConfig} {rail : RailId} {row : Rail}
    {good : σ → Prop} (steady : (fanFeed layout config rail).Steady row good)
    {A : Input σ → Controller σ → Prop} (gentle : ∀ input c, A input c → Gentle row good input)
    {start c : Controller σ} (run : Run A start c)
    (first : Ready layout config rail row good start) : Ready layout config rail row good c :=
  run.invariant (Ready layout config rail row good)
    (fun _ input _ h applied held => h.apply steady input (gentle _ _ held) applied) first

end BoardWarden.Controller
