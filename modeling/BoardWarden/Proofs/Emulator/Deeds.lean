import BoardWarden.Emulator.Session
import BoardWarden.Proofs.Controller.DueOrder
import BoardWarden.Proofs.Controller.Order
import BoardWarden.Proofs.Power.HardOff

set_option autoImplicit false

namespace BoardWarden

namespace Controller

variable {σ : Type} [Board σ]

def polls (c : Controller σ) : Span × Span :=
  (c.rig.rails.timing.poll, c.sequencer.timings.poll)

theorem serviceFaults_polls (c : Controller σ) : c.serviceFaults.2.polls = c.polls := by
  have checked : c.rig.runFaultCheck.2.rails.timing = c.rig.rails.timing :=
    (Rig.demoteFaulted_entries c.rig.rails.rails
      { c.rig with rails := { c.rig.rails with faultCheckPending := false } }).1.timing
  simp only [serviceFaults]
  split
  · split
    · simp only [polls, checked]
    · simp only [polls, forceShutdown, Sequencer.forceShutdownNow, checked,
        (Sequencer.forceShutdown_serves ..).timings]
  · rfl

theorem stepPower_polls (c : Controller σ) : c.stepPower.polls = c.polls := by
  obtain ⟨touched, w⟩ :=
    (c.serviceFaults.2.sequencer.handle_work c.serviceFaults.2.rig).within
  have handled : (c.serviceFaults.2.sequencer.handle c.serviceFaults.2.rig).1.timings =
      c.serviceFaults.2.sequencer.timings := by
    rw [Sequencer.handle_sequencer]
    exact (Sequencer.next_serves ..).timings
  have worked : c.work.polls = c.serviceFaults.2.polls := by
    simp only [polls, work, w.timing, handled]
  rw [stepPower_work, ← c.serviceFaults_polls, ← worked]
  simp only [polls, switchFans_fields, pullThermalForward_fields]

theorem runAction_polls (c : Controller σ) (action : DeferredAction) :
    (c.runAction action).polls = c.polls := by
  have timings : (c.runAction action).sequencer.timings = c.sequencer.timings := by
    cases action with
    | forceShutdown | thermalForceShutdown => exact (Sequencer.forceShutdown_serves ..).timings
    | forceReset =>
      simp only [runAction, runReset]
      split
      · exact (Sequencer.exitHardOff_serves _).timings.trans (c.sequencer.reset_serves _ _).timings
      · exact (c.sequencer.reset_serves _ _).timings
    | thermalFanOverride =>
      simp only [runAction, runFanOverride]
      split <;> rfl
  simp only [polls, runAction_timing, timings]

theorem runDue_polls_same (count : Nat) (c : Controller σ) : (runDue count c).2.polls = c.polls := by
  induction count generalizing c with
  | zero => rfl
  | succ count ih =>
    simp only [runDue]
    split
    · rfl
    · rename_i action agenda _
      exact (ih _).trans (runAction_polls { c with agenda } action)

theorem tickSecond_polls {c c' : Controller σ} {tick : CoolingTick}
    (ticked : c.tickSecond = .ok (tick, c')) : c'.polls = c.polls := by
  obtain ⟨cooling, p, fans, delay, _, _, rfl⟩ := tickSecond_stages ticked
  let d : Controller σ := { c.withPlant p with cooling, fans }
  have followed : (d.followed tick delay).polls = d.polls := by
    simp only [Controller.followed, Controller.followRecovery, recover]
    repeat' split
    all_goals first
      | rfl
      | exact congrArg (fun timings : PowerTimings => (d.rig.rails.timing.poll, timings.poll))
          (Sequencer.exitHardOff_serves _).timings
  have fans : ((d.followed tick delay).fansWorked c.now).polls = (d.followed tick delay).polls := by
    simp only [polls, fansWorked_fields]
  exact fans.trans followed

theorem apply_polls {c c' : Controller σ} (input : Input σ)
    (running : ∀ store reset, input ≠ .init store reset) (applied : c.apply input = .ok c') :
    c'.polls = c.polls := by
  have asked : ∀ m : Sequencer, m.timings = c.sequencer.timings →
      (c.rig.rails.timing.poll, m.timings.poll) = c.polls := fun m same => by rw [same]; rfl
  cases input with
  | init store reset => exact absurd rfl (running store reset)
  | tick =>
    obtain ⟨tick, ticked⟩ := apply_tick applied
    exact tickSecond_polls ticked
  | fan fan command =>
    obtain ⟨sequencer, rails, _⟩ := c.command_fields fan command applied
    simp only [polls, sequencer, rails]
  | step =>
    cases applied
    exact c.stepPower_polls
  | poll =>
    cases applied
    exact runDue_polls_same _ c
  | faults =>
    cases applied
    exact c.serviceFaults_polls
  | powerButton pressed time =>
    cases applied
    simp only [powerButtonChanged]
    repeat' split
    all_goals first
      | rfl
      | exact asked _ (Sequencer.exitHardOff_serves _).timings
  | resetButton pressed time =>
    cases applied
    simp only [resetButtonChanged]
    split <;> rfl
  | powerOn =>
    cases applied
    exact asked _ c.sequencer.exitHardOff_serves.timings
  | shutDown reason =>
    cases applied
    exact asked _ (Sequencer.forceShutdown_serves ..).timings
  | reset reason =>
    cases applied
    exact asked _ (c.sequencer.reset_serves reason c.plant).timings
  | watchdog | feedback | wait | outside =>
    cases applied
    rfl

end Controller

namespace Emulator

theorem World.clocked : Clocked World where
  still call w wakes := by
    cases call with
    | sleep span => exact absurd rfl (wakes span)
    | driveLine line level =>
      change (w.write line level).2.time = w.time
      simp only [World.write]
      split <;> rfl
    | _ => rfl
  sleeps _ _ := rfl

def World.InTime (w : World) : Prop := w.time.micros ≤ Instant.last

theorem World.keepsTime : KeepsTime World.InTime := World.clocked.keepsTime

section Looks

variable (b : RailBank) (rail : RailId) (p : Plant World)

theorem confirmed_plant (row : Rail) : (RailBank.confirmed row p).2 = p := by
  simp only [RailBank.confirmed]
  split <;> rfl

theorem status_plant : (b.status rail p).2 = p := by
  have enabled : ∀ row, (RailBank.enabled row p).2 = p := fun _ => rfl
  simp only [RailBank.status, enabled]
  split
  · rfl
  · split
    · exact confirmed_plant p _
    · rfl

theorem voltage_plant : (b.voltage rail p).2 = p := by
  simp only [RailBank.voltage]
  repeat' split
  all_goals rfl

theorem countRails_plant (rails : List RailId) (counts : Nat × Nat × Nat) :
    (Controller.countRails b rails counts p).2 = p := by
  induction rails generalizing counts with
  | nil => rfl
  | cons rail rest ih => simp only [Controller.countRails, status_plant, ih]

theorem reportVoltage_rig (r : Rig World) (row : Rail) : (r.reportVoltage rail row).2 = r := by
  have sampled : (r.voltage rail).2 = r := by simp only [Rig.voltage, voltage_plant]
  simp only [Rig.reportVoltage]
  split
  · exact sampled
  · rw [sampled]
    rfl

theorem reportRows_rig (rows : List (RailId × Nat)) (r : Rig World) :
    (Rig.reportRows rows r).2 = r := by
  induction rows with
  | nil => rfl
  | cons entry rest ih =>
    simp only [Rig.reportRows]
    split
    · exact ih
    · simp only [reportVoltage_rig, ih]

theorem report_controller (c : Controller World) : c.report.2 = c := by
  simp only [Controller.report, Rig.report, reportRows_rig]

end Looks

/-- A controller that takes every input, and whose waits end. -/
structure Sound (c : Controller World) : Prop where
  ordered : c.Ordered
  inTime : c.board.InTime
  railPoll : 1 ≤ c.polls.1.micros
  powerPoll : 1 ≤ c.polls.2.micros

/-- What reaches a controller besides its start and its seconds. What happens outside does not set the
clock. -/
def Deed : Controller.Input World → Prop
  | .init _ _ | .tick => False
  | .outside change => ∀ w, (change w).time = w.time
  | _ => True

namespace Sound

variable {c c' : Controller World}

theorem withBoard (h : Sound c) {w : World} (inTime : w.InTime) : Sound (c.withBoard w) :=
  ⟨h.ordered.of_same h.ordered.fans rfl rfl, inTime, h.railPoll, h.powerPoll⟩

theorem settles (h : Sound c) : c.train.Settles World.InTime :=
  c.train.settles_of_clock World.keepsTime h.railPoll h.powerPoll

theorem of_called (h : Sound c) (ordered : c'.Ordered) (polls : c'.polls = c.polls)
    (called : Called c.board c'.board) : Sound c' ∧ c.now.micros ≤ c'.now.micros := by
  obtain ⟨inTime, forward⟩ := World.keepsTime.called h.inTime called
  exact ⟨⟨ordered, inTime, polls ▸ h.railPoll, polls ▸ h.powerPoll⟩, forward⟩

theorem deed (h : Sound c) (input : Controller.Input World) (deed : Deed input) :
    ∃ c', c.apply input = .ok c' ∧ Sound c' ∧ c.now.micros ≤ c'.now.micros := by
  obtain ⟨c', applied, ordered⟩ := h.ordered.apply input
  have polls := Controller.apply_polls input (by rintro _ _ rfl; exact deed) applied
  refine ⟨c', applied, ?_⟩
  by_cases inside : ∀ change, input ≠ .outside change
  · exact h.of_called ordered polls (c.apply_called input inside applied)
  · simp only [not_forall, not_not] at inside
    obtain ⟨change, rfl⟩ := inside
    cases applied
    have same : (change c.board).time = c.board.time := deed c.board
    refine ⟨⟨ordered, ?_, h.railPoll, h.powerPoll⟩, Nat.le_of_eq (congrArg Instant.micros same.symm)⟩
    exact Nat.le_trans (Nat.le_of_eq (congrArg Instant.micros same)) h.inTime

theorem applied (h : Sound c) (input : Controller.Input World) (deed : Deed input)
    (applied : c.apply input = .ok c') : Sound c' := by
  obtain ⟨d, applied', sound, _⟩ := h.deed input deed
  rw [applied] at applied'
  cases applied'
  exact sound

theorem aimed (h : Sound c) (fan : FanId) (rpm : Nat) : ∃ fans, c.fans.setTarget fan rpm = .ok fans ∧
    c.apply (.fan fan (.target rpm)) = .ok { c with fans } := by
  obtain ⟨c', applied, _⟩ := h.deed (.fan fan (.target rpm)) trivial
  simp only [Controller.apply, Controller.command] at applied ⊢
  cases set : c.fans.setTarget fan rpm with
  | error halt =>
    rw [set] at applied
    cases applied
  | ok fans => exact ⟨fans, rfl, rfl⟩

theorem second (h : Sound c) : ∃ tick c', c.tickSecond = .ok (tick, c') ∧ Sound c' ∧
    c.now.micros ≤ c'.now.micros := by
  obtain ⟨tick, c', ticked, ordered⟩ := h.ordered.tickSecond
  exact ⟨tick, c', ticked, h.of_called ordered (Controller.tickSecond_polls ticked)
    (c.tickSecond_called ticked)⟩

end Sound

theorem fresh_sound : Sound Session.fresh.controller := by
  have counts : 1 ≤ Session.fresh.controller.polls.1.micros ∧
      1 ≤ Session.fresh.controller.polls.2.micros := by decide +kernel
  have inTime : Session.fresh.controller.board.time.micros ≤ Instant.last := by decide +kernel
  have built : (Controller.fresh Carrier.layout Carrier.fanCount ControllerConfig.builtIn
      World.fresh).Ordered := Controller.fresh_ordered _ _ _ ControllerConfig.builtIn_ordered
  have begun := built.init Settings.Store.empty ⟨false, false, false, false⟩
  have started : Session.fresh.controller.Ordered := by
    unfold Session.fresh
    exact begun
  exact ⟨started, inTime, counts.1, counts.2⟩

end Emulator

end BoardWarden
