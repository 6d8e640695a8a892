import BoardWarden.Proofs.Quiet

set_option autoImplicit false

/-!
What the sequencer makes of its rig is put together from a few moves: it looks, waits and tells, it
raises or lowers one rail, or it marks a rail that is no longer live. What each move preserves holds
of every step of the sequencer.
-/

namespace BoardWarden

variable {σ : Type} [Board σ]

inductive Work (r : Rig σ) : Rig σ → Prop where
  | rest : Work r r
  | look {r' : Rig σ} (p : Plant σ) (before : Work r r') (quiet : Quiet r'.plant.board p.board) :
      Work r { r' with plant := p }
  | raise {r' : Rig σ} (rail : RailId) (settle timeout : Span) (before : Work r r') :
      Work r (r'.powerOn rail settle timeout).2
  | lower {r' : Rig σ} (rail : RailId) (before : Work r r') : Work r (r'.powerOff rail).2
  | mark {r' : Rig σ} (rail : RailId) (before : Work r r') : Work r (r'.setState rail .fault)

namespace Work

theorem trans {r s t : Rig σ} (h : Work r s) (h' : Work s t) : Work r t := by
  induction h' with
  | rest => exact h
  | look p _ quiet ih => exact .look p ih quiet
  | raise rail settle timeout _ ih => exact .raise rail settle timeout ih
  | lower rail _ ih => exact .lower rail ih
  | mark rail _ ih => exact .mark rail ih

theorem plant (r : Rig σ) (p : Plant σ) (quiet : Quiet r.plant.board p.board) :
    Work r { r with plant := p } := .look p .rest quiet

theorem journal (r : Rig σ) (j : Journal) :
    Work r { r with plant := { r.plant with journal := j } } := plant r _ .none

end Work

namespace Rig

theorem note_work (r : Rig σ) (event : Event) : Work r (r.note event) := .plant r _ .none

theorem status_work (r : Rig σ) (rail : RailId) : Work r (r.status rail).2 :=
  .plant r _ (r.rails.status_quiet rail r.plant)

theorem raise_work (timeout : Span) (steps : List Step) (r : Rig σ) :
    Work r (raise timeout steps r).2 := by
  induction steps generalizing r with
  | nil => exact .rest
  | cons step rest ih =>
    have first := Work.raise step.rail step.settle timeout (.rest (r := r))
    simp only [raise]
    split
    · exact first.trans (note_work _ _)
    · exact first.trans (ih _)

theorem verify_work (steps : List Step) (r : Rig σ) : Work r (verify steps r).2 := by
  induction steps generalizing r with
  | nil => exact .rest
  | cons step rest ih =>
    have first := r.status_work step.rail
    simp only [verify]
    split
    · exact first.trans (ih _)
    · exact ((first.mark step.rail).trans (note_work _ _)).trans (ih _)

theorem sequenceOnWithin_work (r : Rig σ) (steps : List Step) (timeout : Span) :
    Work r (r.sequenceOnWithin steps timeout).2 := by
  have raised := raise_work timeout steps r
  simp only [sequenceOnWithin]
  split
  · exact raised
  · exact raised.trans (verify_work steps _)

theorem lower_work (steps : List Step) (r : Rig σ) : Work r (lower steps r).2 := by
  induction steps generalizing r with
  | nil => exact .rest
  | cons step rest ih => exact (Work.lower step.rail .rest).trans (ih _)

theorem sequenceOff_work (r : Rig σ) (steps : List Step) : Work r (r.sequenceOff steps).2 :=
  lower_work steps.reverse r

end Rig

namespace Sequencer

theorem raiseGroups_work (timeout : Span) (groups : List (List Step)) (r : Rig σ) :
    Work r (raiseGroups timeout groups r).2 := by
  induction groups generalizing r with
  | nil => exact .rest
  | cons group rest ih =>
    have first := r.sequenceOnWithin_work group timeout
    simp only [raiseGroups]
    split
    · exact first
    · exact first.trans (ih _)

theorem lowerGroups_work (groups : List (List Step)) (r : Rig σ) :
    Work r (lowerGroups groups r) := by
  induction groups generalizing r with
  | nil => exact .rest
  | cons group rest ih => exact (r.sequenceOff_work group).trans (ih _)

theorem fail_work (m : Sequencer) (reason : ShutdownReason) (next : PowerState) (r : Rig σ) :
    Work r (m.fail reason next r).2.2 := .journal r _

theorem raisePrimary_work (m : Sequencer) (r : Rig σ) : Work r (m.raisePrimary r).2.2 := by
  let held := onPlant r (·.setApReset true)
  have reset : Work r held := .plant r _ (.one r.plant.board (.setApReset true) rfl)
  have raised := reset.trans (held.sequenceOnWithin_work m.plan.primary held.rails.timing.stepTimeout)
  simp only [raisePrimary]
  split
  · exact raised.trans (m.fail_work _ _ _)
  · exact raised.look _ ((Quiet.one _ (.notify .preInit) rfl).next (.notify .startup) rfl)

theorem raiseUpper_work (m : Sequencer) (r : Rig σ) : Work r (m.raiseUpper r).2.2 := by
  have looked : Work r { r with plant := (r.rails.allOn m.plan.primary r.plant).2 } :=
    .plant r _ (r.rails.allOn_quiet m.plan.primary r.plant)
  have raised := looked.trans (raiseGroups_work m.timings.s3Rail m.plan.upperGroups _)
  simp only [raiseUpper]
  split
  · exact .rest
  · split
    · split
      · exact raised.look _ (.one _ (.setApReset false) rfl)
      · exact (raised.trans (m.fail_work _ _ _)).trans (lowerGroups_work _ _)
    · exact looked.trans (m.fail_work _ _ _)

theorem awaitAp_work (m : Sequencer) (r : Rig σ) : Work r (m.awaitAp r).2.2 := by
  have waited : Work r (m.waitComposite m.timings.apFirst r).2 :=
    .plant r _ (m.waitComposite_quiet m.timings.apFirst r)
  simp only [awaitAp]
  split
  · exact waited.look _ ((Quiet.one _ (.notify .resume) rfl).next (.setIdleSleep false) rfl)
  · exact waited.trans (m.fail_work _ _ _)

theorem watchAp_work (m : Sequencer) (r : Rig σ) : Work r (m.watchAp r).2.2 := by
  have waited : Work r (m.waitComposite m.timings.apDebounce r).2 :=
    .plant r _ (m.waitComposite_quiet m.timings.apDebounce r)
  simp only [watchAp]
  split
  · exact .rest
  · split
    · exact waited
    · exact waited.trans (m.fail_work _ _ _)

theorem suspend_work (m : Sequencer) (r : Rig σ) : Work r (m.suspend r).2.2 := by
  let held := onPlant r fun p => (p.notify .suspend).setApReset true
  have told : Work r held :=
    .plant r _ ((Quiet.one _ (.notify .suspend) rfl).next (.setApReset true) rfl)
  have lowered : Work r (onPlant (m.lowerUpper held) (·.setIdleSleep true)) :=
    (told.trans (lowerGroups_work m.plan.upperGroups.reverse held)).look _
      (.one (m.lowerUpper held).plant.board (.setIdleSleep true) rfl)
  simp only [suspend]
  split
  · exact lowered.trans (m.fail_work _ _ _)
  · exact lowered

theorem lowerPrimary_work (m : Sequencer) (r : Rig σ) : Work r (m.lowerPrimary r).2.2 :=
  (Work.plant r (r.plant.notify .shutdown) (.one _ (.notify .shutdown) rfl)).trans
    (Rig.sequenceOff_work _ _)

theorem next_work (m : Sequencer) (r : Rig σ) : Work r (m.next r).2.2 := by
  cases hs : m.state <;> simp only [next, hs]
  case g3 => split <;> exact .rest
  case g3s5 | s5 | s5g3 => exact .rest
  case s5s3 => exact m.raisePrimary_work r
  case s3 => exact m.raiseUpper_work r
  case s3s0 => exact m.awaitAp_work r
  case s0 => exact m.watchAp_work r
  case s0s3 => exact m.suspend_work r
  case s3s5 => exact m.lowerPrimary_work r

theorem handle_work (m : Sequencer) (r : Rig σ) : Work r (m.handle r).2 := by
  have work := m.next_work r
  simp only [handle]
  split
  · exact work
  · exact work.look _ .none

end Sequencer

end BoardWarden
