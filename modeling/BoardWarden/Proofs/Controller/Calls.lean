import BoardWarden.Controller.View
import BoardWarden.Proofs.Controller.Fields
import BoardWarden.Proofs.Power.Script

set_option autoImplicit false

namespace BoardWarden

variable {σ : Type} [Board σ]

inductive Called (b : σ) : σ → Prop where
  | none : Called b b
  | next {b' : σ} (call : Call) (before : Called b b') : Called b (call.run b')

namespace Called

theorem trans {a b c : σ} (h : Called a b) (h' : Called b c) : Called a c := by
  induction h' with
  | none => exact h
  | next call _ ih => exact .next call ih

theorem of_quiet {b b' : σ} (h : Quiet b b') : Called b b' := by
  induction h with
  | none => exact .none
  | next call _ _ ih => exact .next call ih

theorem after (p : Plant σ) (calls : List Call) (notes : List Note) :
    Called p.board (p.after calls notes).board := by
  induction calls generalizing p with
  | nil => exact .none
  | cons call rest ih =>
    exact (Called.next call .none).trans (ih { p with board := call.run p.board })

theorem of_does {scope : Scope} {p p' : Plant σ} (h : Does scope p p') : Called p.board p'.board := by
  obtain ⟨calls, notes, rfl, _⟩ := h
  exact after p calls notes

end Called

theorem Sequencer.handle_called (m : Sequencer) (r : Rig σ) :
    Called r.plant.board (m.handle r).2.plant.board := by
  obtain ⟨calls, notes, same, _⟩ := m.handle_plays r
  rw [same]
  exact .after r.plant calls _

theorem Rig.adoptLive_called (r : Rig σ) : Called r.plant.board r.adoptLive.plant.board := by
  unfold adoptLive
  generalize r.rails.rails = rails
  induction rails generalizing r with
  | nil => exact .none
  | cons rail rest ih =>
    rw [List.foldl_cons]
    refine Called.trans ?_ (ih _)
    exact .of_does (r.status_does rail)

namespace Controller

variable (c : Controller σ)

theorem serviceFaults_called : Called c.board c.serviceFaults.2.board := by
  have checked := Called.of_does c.rig.runFaultCheck_does
  simp only [serviceFaults]
  split
  · split <;> exact checked
  · exact .none

theorem switchFans_called (origin : PowerState) : Called c.board (c.switchFans origin).board := by
  have fans := fun on => Called.of_quiet (setFans_quiet on c.fans.fans c.fans c.plant)
  simp only [switchFans, disableFans]
  repeat' split
  all_goals first
    | exact .none
    | exact fans _

theorem stepPower_called : Called c.board c.stepPower.board := by
  have worked : Called c.board c.work.board :=
    c.serviceFaults_called.trans (c.serviceFaults.2.sequencer.handle_called _)
  have pulled : c.work.pullThermalForward.board = c.work.board := by
    simp only [pullThermalForward]
    split <;> rfl
  rw [stepPower_work]
  exact (pulled ▸ worked).trans (switchFans_called _ _)

theorem runAction_called (action : DeferredAction) : Called c.board (c.runAction action).board := by
  cases action with
  | forceShutdown | thermalForceShutdown => exact .none
  | forceReset =>
    have pulsed := c.sequencer.reset_quiet
      (if c.watchdogReset then .watchdog else .resetButton) c.plant
    simp only [runAction, runReset]
    split
    all_goals
      rename_i watchdog
      simp only [watchdog] at pulsed
      exact .of_quiet pulsed
  | thermalFanOverride =>
    have powered : ∀ rail settle timeout,
        Called c.board (c.rig.powerOn rail settle timeout).2.plant.board :=
      fun rail settle timeout => .of_does (c.rig.powerOn_does rail settle timeout)
    simp only [runAction, runFanOverride]
    split
    · split
      · exact .none
      · exact powered _ _ _
    · split
      · exact .of_quiet (overrideFans_quiet _ _ _ _)
      · exact (powered _ _ _).trans (.of_quiet (overrideFans_quiet _ _ _ _))

theorem runDue_called (count : Nat) : Called c.board (runDue count c).2.board := by
  induction count generalizing c with
  | zero => exact .none
  | succ count ih =>
    simp only [runDue]
    split
    · exact .none
    · rename_i action agenda _
      exact (runAction_called { c with agenda } action).trans (ih _)

theorem tickSecond_called {c' : Controller σ} {tick : CoolingTick}
    (ticked : c.tickSecond = .ok (tick, c')) : Called c.board c'.board := by
  obtain ⟨cooling, p, fans, delay, read, _, rfl⟩ := tickSecond_stages ticked
  let d : Controller σ := { c.withPlant p with cooling, fans }
  have cooled : Called c.board d.board := .of_quiet (c.cooling.tick_quiet _ _ _ _ _ _ read)
  have followed : Called d.board (d.followed tick delay).board := by
    have asked := Called.of_quiet d.askDown_quiet
    have recovered : ∀ (e : Controller σ) recovery, (e.recover recovery).board = e.board :=
      fun e recovery => congrArg (fun r => r.plant.board) (e.recover_fields recovery).2.2.1
    simp only [Controller.followed, Controller.followRecovery]
    repeat' split
    all_goals first
      | exact .none
      | exact asked
      | rw [recovered]; exact .none
      | rw [recovered]; exact asked
  exact (cooled.trans followed).trans (.of_quiet (fansWorked_quiet _ _))

theorem init_called (store : Settings.Store) (reset : ResetFlags) :
    Called c.board (c.init store reset).board := by
  let loaded := ({ c with rig := c.rig.adoptLive } : Controller σ).loadSettings store c.now
  have same : loaded.board = c.rig.adoptLive.plant.board :=
    (loadSettings_fields { c with rig := c.rig.adoptLive } store c.now).2.2.1
  have begun : Called c.board loaded.board := by
    rw [same]
    exact c.rig.adoptLive_called
  have started := begun.trans
    (.of_quiet (loaded.sequencer.chipsetInit_quiet loaded.rig.rails reset loaded.flags.autoboot
      loaded.plant))
  simp only [init]
  split
  · exact started.trans (.of_quiet (setFans_quiet true _ _ _))
  · exact started

/-- Whatever reaches a controller, apart from a change of the board from outside, it makes calls. -/
theorem apply_called {c' : Controller σ} (input : Input σ)
    (inside : ∀ change, input ≠ .outside change) (applied : c.apply input = .ok c') :
    Called c.board c'.board := by
  cases input with
  | outside change => exact absurd rfl (inside change)
  | tick =>
    obtain ⟨tick, ticked⟩ := apply_tick applied
    exact c.tickSecond_called ticked
  | fan fan command => exact .of_quiet (c.command_fields fan command applied).2.2.2.2.2.2
  | init store reset =>
    cases applied
    exact c.init_called store reset
  | faults =>
    cases applied
    exact c.serviceFaults_called
  | step =>
    cases applied
    exact c.stepPower_called
  | poll =>
    cases applied
    exact c.runDue_called _
  | reset reason =>
    cases applied
    exact .of_quiet (c.sequencer.reset_quiet reason c.plant)
  | wait span =>
    cases applied
    exact .next (.sleep span) .none
  | powerButton pressed time =>
    cases applied
    simp only [powerButtonChanged]
    split <;> exact .none
  | resetButton pressed time =>
    cases applied
    simp only [resetButtonChanged]
    split <;> exact .none
  | watchdog _ | feedback | powerOn | shutDown _ =>
    cases applied
    exact .none

theorem countRails_does (b : RailBank) (rails : List RailId) (counts : Nat × Nat × Nat)
    (p : Plant σ) : Does .look p (countRails b rails counts p).2 := by
  induction rails generalizing counts p with
  | nil => exact .none p
  | cons rail rest ih => exact (b.status_does rail p).trans (ih _ _)

theorem panel_called {shown : Panel × Controller σ} (h : c.panel = .ok shown) :
    ∃ b, Called c.board b ∧ shown.2 = c.withBoard b := by
  obtain ⟨calls, notes, same, _, silent⟩ :=
    countRails_does c.rig.rails c.rig.rails.rails (0, 0, 0) c.plant
  obtain rfl : notes = [] := List.eq_nil_iff_forall_not_mem.2 fun note listed => by
    cases silent note listed
  refine ⟨calls.foldl Call.run c.board, .after c.plant calls [], ?_⟩
  obtain ⟨fans, _, rfl⟩ := map_ok h
  simp only [same]
  rfl

end Controller

end BoardWarden
