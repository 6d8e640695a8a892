import BoardWarden.Rail.Supervision
import BoardWarden.Proofs.Calls
import BoardWarden.Proofs.Journal

set_option autoImplicit false

namespace BoardWarden

namespace Event

def isTransition : Event → Bool
  | powerTransition _ => true
  | _ => false

end Event

namespace Plant

variable {σ : Type} [Board σ]

def after (p : Plant σ) (calls : List Call) (notes : List Note) : Plant σ :=
  ⟨calls.foldl Call.run p.board, p.journal.enterAll notes⟩

theorem after_after (p : Plant σ) (calls calls' : List Call) (notes notes' : List Note) :
    (p.after calls notes).after calls' notes' = p.after (calls ++ calls') (notes ++ notes') := by
  simp only [after, List.foldl_append, Journal.enterAll_append]

end Plant

structure Scope where
  calls : Call → Bool
  events : Event → Bool

namespace Scope

def look : Scope := ⟨Call.looks, fun _ => false⟩

def wait : Scope := ⟨Call.waits, fun _ => false⟩

def report : Scope := ⟨Call.waits, fun event => !event.isTransition⟩

def switch : Scope := ⟨Call.switches, fun event => !event.isTransition⟩

structure Within (s t : Scope) : Prop where
  calls : ∀ call, s.calls call = true → t.calls call = true
  events : ∀ event, s.events event = true → t.events event = true

theorem look_wait : Within look wait := ⟨fun _ => Call.waits_of_looks, fun _ => id⟩

theorem wait_report : Within wait report := ⟨fun _ => id, fun _ h => by cases h⟩

theorem look_report : Within look report := ⟨fun _ => Call.waits_of_looks, fun _ h => by cases h⟩

theorem report_switch : Within report switch := ⟨fun _ => Call.switches_of_waits, fun _ => id⟩

theorem look_switch : Within look switch :=
  ⟨fun call h => report_switch.calls call (look_report.calls call h), fun _ h => by cases h⟩

end Scope

variable {σ : Type} [Board σ]

def Does (scope : Scope) (p p' : Plant σ) : Prop :=
  ∃ calls notes, p' = p.after calls notes ∧ (∀ call ∈ calls, scope.calls call = true) ∧
    ∀ note ∈ notes, scope.events note.event = true

namespace Does

variable {s t : Scope} {p p' p'' : Plant σ}

theorem none (p : Plant σ) : Does s p p :=
  ⟨[], [], rfl, List.forall_mem_nil _, List.forall_mem_nil _⟩

theorem call (p : Plant σ) (call : Call) (kept : s.calls call = true) :
    Does s p { p with board := call.run p.board } :=
  ⟨[call], [], rfl, List.forall_mem_singleton.2 kept, List.forall_mem_nil _⟩

theorem enter (p : Plant σ) (note : Note) (kept : s.events note.event = true) :
    Does s p { p with journal := p.journal.enter note } :=
  ⟨[], [note], rfl, List.forall_mem_nil _, List.forall_mem_singleton.2 kept⟩

theorem trans (h : Does s p p') (h' : Does s p' p'') : Does s p p'' := by
  obtain ⟨calls, notes, rfl, called, entered⟩ := h
  obtain ⟨calls', notes', rfl, called', entered'⟩ := h'
  exact ⟨_, _, p.after_after calls calls' notes notes', List.forall_mem_append.2 ⟨called, called'⟩,
    List.forall_mem_append.2 ⟨entered, entered'⟩⟩

theorem mono (sub : s.Within t) (h : Does s p p') : Does t p p' := by
  obtain ⟨calls, notes, same, called, entered⟩ := h
  exact ⟨calls, notes, same, fun call hc => sub.calls call (called call hc),
    fun note hn => sub.events _ (entered note hn)⟩

end Does

theorem Plant.record_does {s : Scope} (p : Plant σ) (event : Event) (reading : Reading)
    (kept : s.events event = true) : Does s p (p.record event reading) :=
  .enter p ⟨event, reading, p.now⟩ kept

namespace RailBank

theorem enabled_does (row : Rail) (p : Plant σ) : Does .look p (enabled row p).2 :=
  .call p (.readLine row.enable.line) rfl

theorem confirmed_does (row : Rail) (p : Plant σ) : Does .look p (confirmed row p).2 := by
  simp only [confirmed]
  split
  · exact .none p
  · rename_i channel _ _
    exact .call p (.readMillivolts channel) rfl
  · rename_i line _
    exact .call p (.readLine line) rfl

theorem status_does (b : RailBank) (rail : RailId) (p : Plant σ) :
    Does .look p (b.status rail p).2 := by
  simp only [status]
  split
  · exact .none p
  · rename_i row _
    split
    · exact (enabled_does row p).trans (confirmed_does row _)
    · exact enabled_does row p

theorem voltage_does (b : RailBank) (rail : RailId) (p : Plant σ) :
    Does .look p (b.voltage rail p).2 := by
  simp only [voltage]
  split
  · exact .none p
  · split
    · rename_i channel _ _
      exact .call p (.readMillivolts channel) rfl
    · exact .none p

theorem drive_does (rail : RailId) (row : Rail) (on : Bool) (p : Plant σ) :
    Does .switch p (drive rail row on p).2 :=
  .call p (.driveLine row.enable.line (row.enable.level on)) rfl

theorem control_does (b : RailBank) (rail : RailId) (on : Bool) (p : Plant σ) :
    Does .switch p (b.control rail on p).2 := by
  simp only [control]
  split
  · exact .none p
  · rename_i row _
    have looked := (b.status_does row.parent p).mono Scope.look_switch
    split
    · split
      · exact looked.trans (drive_does rail row on _)
      · exact looked
    · exact drive_does rail row on p

theorem allOn_does (b : RailBank) (steps : List Step) (p : Plant σ) :
    Does .look p (b.allOn steps p).2 := by
  induction steps generalizing p with
  | nil => exact .none p
  | cons step rest ih =>
    have first := b.status_does step.rail p
    simp only [allOn]
    split
    · exact first.trans (ih _)
    · exact first

end RailBank

namespace Rig

theorem status_does (r : Rig σ) (rail : RailId) : Does .look r.plant (r.status rail).2.plant :=
  r.rails.status_does rail r.plant

theorem voltage_does (r : Rig σ) (rail : RailId) : Does .look r.plant (r.voltage rail).2.plant :=
  r.rails.voltage_does rail r.plant

theorem awaitOn_does (rail : RailId) (deadline : Instant) (fuel : Nat) (r : Rig σ) :
    Does .wait r.plant (awaitOn rail deadline fuel r).plant := by
  induction fuel generalizing r with
  | zero => exact (r.status_does rail).mono Scope.look_wait
  | succ fuel ih =>
    have looked := (r.status_does rail).mono Scope.look_wait
    simp only [awaitOn]
    split
    · exact looked
    · exact (looked.trans (.call _ (.sleep r.rails.timing.poll) rfl)).trans
        (ih ((r.status rail).2.sleep r.rails.timing.poll))

theorem confirmOn_does (r : Rig σ) (rail : RailId) (timeout : Span) :
    Does .report r.plant (r.confirmOn rail timeout).2.plant := by
  let deadline := r.plant.now.after timeout
  let waited := awaitOn rail deadline (deadline.micros - r.plant.now.micros) r
  have looked : Does .report r.plant (waited.status rail).2.plant :=
    ((awaitOn_does rail deadline _ r).mono Scope.wait_report).trans
      ((waited.status_does rail).mono Scope.look_report)
  simp only [confirmOn]
  split
  · exact looked.trans (Plant.record_does _ (.supplyOn rail) .none rfl)
  · exact (looked.trans ((RailBank.voltage_does _ rail _).mono Scope.look_report)).trans
      (Plant.record_does _ (.supplyFailed rail) _ rfl)

theorem failTurnOn_does (r : Rig σ) (rail : RailId) (error : RailError) :
    Does .switch r.plant (r.failTurnOn rail error).plant := by
  refine Plant.record_does _ _ _ ?_
  split <;> rfl

theorem powerOn_does (r : Rig σ) (rail : RailId) (settle timeout : Span) :
    Does .switch r.plant (r.powerOn rail settle timeout).2.plant := by
  unfold powerOn
  split
  · exact .none _
  · exact .none _
  · have raised : Does .switch r.plant ((r.setState rail .turningOn).control rail true).2.plant :=
      RailBank.control_does _ rail true _
    dsimp only
    split
    · exact raised.trans (failTurnOn_does _ rail _)
    · refine raised.trans (Does.trans ?_ ((confirmOn_does _ rail timeout).mono Scope.report_switch))
      split
      · exact .none _
      · exact .call _ (.sleep settle) rfl

theorem powerOff_does (r : Rig σ) (rail : RailId) :
    Does .switch r.plant (r.powerOff rail).2.plant := by
  unfold powerOff
  split
  · exact .none _
  · exact RailBank.control_does _ rail false _

theorem raise_does (timeout : Span) (steps : List Step) (r : Rig σ) :
    Does .switch r.plant (raise timeout steps r).2.plant := by
  induction steps generalizing r with
  | nil => exact .none _
  | cons step rest ih =>
    have first := r.powerOn_does step.rail step.settle timeout
    simp only [raise]
    split
    · exact first.trans (Plant.record_does _ (.sequenceFailed step.rail) .none rfl)
    · exact first.trans (ih _)

theorem verify_does (steps : List Step) (r : Rig σ) :
    Does .report r.plant (verify steps r).2.plant := by
  induction steps generalizing r with
  | nil => exact .none _
  | cons step rest ih =>
    have looked := (r.status_does step.rail).mono Scope.look_report
    simp only [verify]
    split
    · exact looked.trans (ih _)
    · exact (looked.trans (Plant.record_does _ (.sequenceFailed step.rail) .none rfl)).trans (ih _)

theorem sequenceOnWithin_does (r : Rig σ) (steps : List Step) (timeout : Span) :
    Does .switch r.plant (r.sequenceOnWithin steps timeout).2.plant := by
  have raised := raise_does timeout steps r
  simp only [sequenceOnWithin]
  split
  · exact raised
  · exact raised.trans ((verify_does steps _).mono Scope.report_switch)

theorem lower_does (steps : List Step) (r : Rig σ) :
    Does .switch r.plant (lower steps r).2.plant := by
  induction steps generalizing r with
  | nil => exact .none _
  | cons step rest ih => exact (r.powerOff_does step.rail).trans (ih _)

theorem sequenceOff_does (r : Rig σ) (steps : List Step) :
    Does .switch r.plant (r.sequenceOff steps).2.plant := lower_does steps.reverse r

theorem demote_does (r : Rig σ) (rail : RailId) : Does .switch r.plant (r.demote rail).plant := by
  have sampled := (voltage_does (r.setState rail .fault) rail).mono Scope.look_switch
  exact (sampled.trans (Plant.record_does _ (.supplyFault rail) _ rfl)).trans
    (RailBank.control_does _ rail false _)

theorem demoteFaulted_does (rails : List RailId) (r : Rig σ) :
    Does .switch r.plant (demoteFaulted rails r).2.plant := by
  induction rails generalizing r with
  | nil => exact .none _
  | cons rail rest ih =>
    have looked := (r.status_does rail).mono Scope.look_switch
    simp only [demoteFaulted]
    split
    · split
      · exact (looked.trans (demote_does _ rail)).trans (ih _)
      · exact looked.trans (ih _)
    · exact ih r

theorem runFaultCheck_does (r : Rig σ) : Does .switch r.plant r.runFaultCheck.2.plant :=
  demoteFaulted_does r.rails.rails _

end Rig

end BoardWarden
