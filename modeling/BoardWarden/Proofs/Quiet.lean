import BoardWarden.Proofs.Controller.Stages
import BoardWarden.Proofs.Cooling.Tick
import BoardWarden.Proofs.Rail.Deeds

set_option autoImplicit false

namespace BoardWarden

variable {σ : Type} [Board σ]

theorem Does.quiet {s : Scope} {p p' : Plant σ} (h : Does s p p')
    (waits : ∀ call, s.calls call = true → call.waits = true) : Quiet p.board p'.board := by
  obtain ⟨calls, notes, rfl, called, _⟩ := h
  exact .all calls p.board fun call listed => Call.still_of_waits (waits call (called call listed))

namespace RailBank

theorem status_quiet (b : RailBank) (rail : RailId) (p : Plant σ) :
    Quiet p.board (b.status rail p).2.board :=
  (b.status_does rail p).quiet fun _ => Call.waits_of_looks

theorem voltage_quiet (b : RailBank) (rail : RailId) (p : Plant σ) :
    Quiet p.board (b.voltage rail p).2.board :=
  (b.voltage_does rail p).quiet fun _ => Call.waits_of_looks

theorem allOn_quiet (b : RailBank) (steps : List Step) (p : Plant σ) :
    Quiet p.board (b.allOn steps p).2.board :=
  (b.allOn_does steps p).quiet fun _ => Call.waits_of_looks

end RailBank

namespace Rig

theorem awaitOn_quiet (rail : RailId) (deadline : Instant) (fuel : Nat) (r : Rig σ) :
    Quiet r.plant.board (awaitOn rail deadline fuel r).plant.board :=
  (awaitOn_does rail deadline fuel r).quiet fun _ => id

theorem confirmOn_quiet (r : Rig σ) (rail : RailId) (timeout : Span) :
    Quiet r.plant.board (r.confirmOn rail timeout).2.plant.board :=
  (r.confirmOn_does rail timeout).quiet fun _ => id

theorem verify_quiet (steps : List Step) (r : Rig σ) :
    Quiet r.plant.board (verify steps r).2.plant.board :=
  (verify_does steps r).quiet fun _ => id

end Rig

namespace Sequencer

theorem allGroupsOn_does (rails : RailBank) (groups : List (List Step)) (p : Plant σ) :
    Does .look p (allGroupsOn rails groups p).2 := by
  induction groups generalizing p with
  | nil => exact .none p
  | cons group rest ih =>
    have first := rails.allOn_does group p
    simp only [allGroupsOn]
    split
    · exact first.trans (ih _)
    · exact first

theorem compositeGood_does (m : Sequencer) (rails : RailBank) (p : Plant σ) :
    Does .look p (m.compositeGood rails p).2 := by
  have groups := allGroupsOn_does rails (m.plan.primary :: m.plan.upperGroups) p
  simp only [compositeGood]
  split
  · split
    · exact groups
    · rename_i line _
      exact groups.trans (.call _ (.readLine line) rfl)
  · exact groups

theorem awaitGood_does (m : Sequencer) (rails : RailBank) (deadline : Instant) (fuel : Nat)
    (p : Plant σ) : Does .wait p (m.awaitGood rails deadline fuel p).2 := by
  induction fuel generalizing p with
  | zero => exact (m.compositeGood_does rails p).mono Scope.look_wait
  | succ fuel ih =>
    have looked := (m.compositeGood_does rails p).mono Scope.look_wait
    simp only [awaitGood]
    split
    · exact looked
    · exact (looked.trans (.call _ (.sleep m.timings.poll) rfl)).trans
        (ih ((m.compositeGood rails p).2.sleep m.timings.poll))

theorem waitComposite_does (m : Sequencer) (timeout : Span) (r : Rig σ) :
    Does .wait r.plant (m.waitComposite timeout r).2.plant :=
  m.awaitGood_does r.rails _ _ r.plant

theorem compositeGood_quiet (m : Sequencer) (rails : RailBank) (p : Plant σ) :
    Quiet p.board (m.compositeGood rails p).2.board :=
  (m.compositeGood_does rails p).quiet fun _ => Call.waits_of_looks

theorem waitComposite_quiet (m : Sequencer) (timeout : Span) (r : Rig σ) :
    Quiet r.plant.board (m.waitComposite timeout r).2.plant.board :=
  (m.waitComposite_does timeout r).quiet fun _ => id

theorem reset_quiet (m : Sequencer) (reason : ResetReason) (p : Plant σ) :
    Quiet p.board (m.reset reason p).2.2.board := by
  have pulse : Quiet p.board (((p.setApReset true).sleep m.timings.resetPulse).setApReset
      false).board :=
    ((Quiet.one p.board (.setApReset true) rfl).next (.sleep m.timings.resetPulse) rfl).next
      (.setApReset false) rfl
  simp only [reset]
  split
  · exact pulse
  · exact pulse
  · exact .none

theorem chipsetInit_quiet (m : Sequencer) (rails : RailBank) (flags : ResetFlags) (autoboot : Bool)
    (p : Plant σ) : Quiet p.board (m.chipsetInit rails flags autoboot p).2.board := by
  simp only [chipsetInit]
  split
  · have looked := compositeGood_quiet { m with state := .g3 } rails p
    split
    · exact looked.next (.setIdleSleep false) rfl
    · exact looked
  · split <;> exact .none

end Sequencer

namespace FanBank

theorem setEnabled_quiet (b : FanBank) (fan : FanId) (on : Bool) (p : Plant σ) :
    Quiet p.board (b.setEnabled fan on p).2.board := by
  simp only [setEnabled]
  split
  · exact .none
  · split
    · exact .one p.board (.setOutput fan true) rfl
    · exact .one p.board (.setDuty fan 0) rfl

theorem setDuty_quiet (b : FanBank) (fan : FanId) (percent : Nat) (p : Plant σ) :
    Quiet p.board (b.setDuty fan percent p).2.board := by
  simp only [setDuty]
  split
  · exact .none
  · exact .one p.board (.setDuty fan (min percent 100)) rfl

theorem stepChannels_quiet (step : FanId → FanChannel → Plant σ → FanChannel × Plant σ)
    (quiet : ∀ fan c p, Quiet p.board (step fan c p).2.board) (first : Nat)
    (channels : List FanChannel) (p : Plant σ) :
    Quiet p.board (stepChannels step first channels p).2.board := by
  induction channels generalizing first p with
  | nil => exact .none
  | cons c rest ih => exact (quiet ⟨first⟩ c p).trans (ih (first + 1) _)

theorem checkChannel_quiet (fan : FanId) (powered : Bool) (time : Instant) (c : FanChannel)
    (p : Plant σ) : Quiet p.board (checkChannel fan powered time c p).2.board := by
  simp only [checkChannel]
  repeat' split
  all_goals first
    | exact .none
    | exact .one p.board (.clearPeriod fan) rfl

theorem controlChannel_quiet (config : FanConfig) (fan : FanId) (time : Instant) (c : FanChannel)
    (p : Plant σ) : Quiet p.board (controlChannel config fan time c p).2.board := by
  simp only [controlChannel]
  split
  · exact .none
  · split
    · exact .none
    · rename_i duty _
      exact .one p.board (.setDuty fan duty) rfl
    · split <;> exact .none

theorem healthTick_quiet (b : FanBank) (powered : Bool) (time : Instant) (p : Plant σ) :
    Quiet p.board (b.healthTick powered time p).2.board :=
  stepChannels_quiet _ (fun fan c p => checkChannel_quiet fan powered time c p) 0 b.channels p

theorem controlTick_quiet (b : FanBank) (powered : Bool) (time : Instant) (p : Plant σ) :
    Quiet p.board (b.controlTick powered time p).2.board := by
  simp only [controlTick]
  split
  · exact stepChannels_quiet _ (fun fan c p => controlChannel_quiet b.config fan time c p) 0
      b.channels p
  · exact .none

end FanBank

namespace Cooling

theorem readZones_quiet (time : Instant) (zones : List Zone) (p : Plant σ) :
    Quiet p.board (readZones time zones p).2.board := by
  induction zones generalizing p with
  | nil => exact .none
  | cons z rest ih =>
    simp only [readZones]
    split
    · have read := Quiet.one p.board (.readKelvin z.definition.sensor) rfl
      split
      · exact read.trans (ih (p.readKelvin z.definition.sensor).2)
      · exact read.trans (ih ((p.readKelvin z.definition.sensor).2.noteAt _ time))
    · exact ih p

theorem tick_quiet (c d : Cooling) (inputs : CoolingInputs) (time : Instant) (p p' : Plant σ)
    (tick : CoolingTick) (h : c.tick inputs time p = .ok (tick, d, p')) :
    Quiet p.board p'.board := by
  have read := readZones_quiet time c.zones p
  simp only [Cooling.tick] at h
  split at h
  · simp only [Except.ok.injEq] at h
    obtain ⟨_, _, rfl⟩ := h
    exact read
  · split at h
    · cases h
    · rename_i demand followed q followed_eq
      obtain ⟨_, _, board⟩ := followDemand_keeps _ _ _ _ _ _ _ _ followed_eq
      split at h
      · simp only [Except.ok.injEq, Prod.mk.injEq] at h
        obtain ⟨_, _, rfl⟩ := h
        rwa [board]
      · simp only [Except.ok.injEq, Prod.mk.injEq] at h
        obtain ⟨_, _, rfl⟩ := h
        change Quiet p.board q.board
        rwa [board]

end Cooling

namespace Controller

theorem setFans_quiet (on : Bool) (fans : List FanId) (b : FanBank) (p : Plant σ) :
    Quiet p.board (setFans on fans b p).2.board := by
  induction fans generalizing b p with
  | nil => exact .none
  | cons fan rest ih => exact (b.setEnabled_quiet fan on p).trans (ih _ _)

theorem overrideFans_quiet (duty : Nat) (fans : List FanId) (b : FanBank) (p : Plant σ) :
    Quiet p.board (overrideFans duty fans b p).2.board := by
  induction fans generalizing b p with
  | nil => exact .none
  | cons fan rest ih =>
    have on := (b.setMode fan .manual).setEnabled_quiet fan true p
    exact (on.trans (FanBank.setDuty_quiet _ fan duty _)).trans (ih _ _)

theorem askDown_quiet (c : Controller σ) : Quiet c.board c.askDown.board :=
  ((Quiet.one c.board (.setPowerButton true) rfl).next (.sleep c.config.cooling.buttonPulse)
    rfl).next (.setPowerButton false) rfl

theorem fansWorked_quiet (c : Controller σ) (time : Instant) :
    Quiet c.board (c.fansWorked time).board := by
  have powered : Quiet c.board c.fanPowerGood.2.board := by
    simp only [fanPowerGood]
    split
    · exact .none
    · exact c.rig.rails.status_quiet _ c.plant
  exact (powered.trans (FanBank.healthTick_quiet ..)).trans (FanBank.controlTick_quiet ..)

end Controller

end BoardWarden
