import BoardWarden.Proofs.Power.Closure
import BoardWarden.Proofs.Rail.Writes

set_option autoImplicit false

namespace BoardWarden

namespace Sequencer

def opening : PowerState → List Call
  | .s5s3 => [.setApReset true]
  | .s0s3 => [.notify .suspend, .setApReset true]
  | .s3s5 => [.notify .shutdown]
  | _ => []

def closing : PowerState → PowerState → List Call
  | .s5s3, .s3 => [.notify .preInit, .notify .startup]
  | .s3, .s3s0 => [.setApReset false]
  | .s3s0, .s0 => [.notify .resume, .setIdleSleep false]
  | .s0s3, _ => [.setIdleSleep true]
  | _, _ => []

def isWork : PowerState → Call → Bool
  | .s5s3, call | .s3, call | .s0s3, call | .s3s5, call => call.switches
  | .s3s0, call | .s0, call => call.waits
  | _, _ => false

theorem isWork_switches {s : PowerState} {call : Call} (h : isWork s call = true) :
    call.switches = true := by
  cases s <;> first | exact h | exact Call.switches_of_waits h | cases h

def scope (s : PowerState) : Scope := ⟨isWork s, fun event => !event.isTransition⟩

def Script (s s' : PowerState) (calls : List Call) : Prop :=
  ∃ work, calls = opening s ++ work ++ closing s s' ∧ ∀ call ∈ work, isWork s call = true

variable {σ : Type} [Board σ]

def Plays (s s' : PowerState) (p p' : Plant σ) : Prop :=
  ∃ calls notes, p' = p.after calls notes ∧ Script s s' calls ∧
    ∀ note ∈ notes, note.event.isTransition = false

theorem Plays.of_does {s : PowerState} (s' : PowerState) {p q : Plant σ}
    (h : Does (scope s) (p.after (opening s) []) q) : Plays s s' p (q.after (closing s s') []) := by
  obtain ⟨work, notes, rfl, called, entered⟩ := h
  refine ⟨_, notes, ?_, ⟨work, rfl, called⟩, fun note listed => ?_⟩
  · simp only [Plant.after_after, List.nil_append, List.append_nil]
  · simpa [scope] using entered note listed

theorem raiseGroups_does (timeout : Span) (groups : List (List Step)) (r : Rig σ) :
    Does .switch r.plant (raiseGroups timeout groups r).2.plant := by
  induction groups generalizing r with
  | nil => exact .none _
  | cons group rest ih =>
    have first := r.sequenceOnWithin_does group timeout
    simp only [raiseGroups]
    split
    · exact first
    · exact first.trans (ih _)

theorem lowerGroups_does (groups : List (List Step)) (r : Rig σ) :
    Does .switch r.plant (lowerGroups groups r).plant := by
  induction groups generalizing r with
  | nil => exact .none _
  | cons group rest ih => exact (r.sequenceOff_does group).trans (ih _)

theorem lowerUpper_does (m : Sequencer) (r : Rig σ) : Does .switch r.plant (m.lowerUpper r).plant :=
  lowerGroups_does m.plan.upperGroups.reverse r

theorem forceShutdown_after (m : Sequencer) (reason : ShutdownReason) (time : Instant)
    (p : Plant σ) : ∃ notes,
      { p with journal := (m.forceShutdown reason time p.journal).2 } = p.after [] notes ∧
        ∀ note ∈ notes, note.event = .forcedShutdown reason := by
  simp only [forceShutdown]
  split
  · exact ⟨[], rfl, List.forall_mem_nil _⟩
  · exact ⟨[⟨.forcedShutdown reason, .none, time⟩], rfl, List.forall_mem_singleton.2 rfl⟩

theorem forceShutdown_does {s : Scope} (m : Sequencer) (reason : ShutdownReason) (time : Instant)
    (p : Plant σ) (kept : s.events (.forcedShutdown reason) = true) :
    Does s p { p with journal := (m.forceShutdown reason time p.journal).2 } := by
  obtain ⟨notes, same, forced⟩ := m.forceShutdown_after reason time p
  refine ⟨[], notes, same, List.forall_mem_nil _, fun note listed => ?_⟩
  rw [forced note listed]
  exact kept

theorem fail_does (s : PowerState) (m : Sequencer) (reason : ShutdownReason) (next : PowerState)
    (r : Rig σ) : Does (scope s) r.plant (m.fail reason next r).2.2.plant :=
  m.forceShutdown_does reason r.plant.now r.plant rfl

variable (m : Sequencer) (r : Rig σ)

theorem raisePrimary_plays :
    Plays .s5s3 (m.raisePrimary r).1 r.plant (m.raisePrimary r).2.2.plant := by
  have raised : Does (scope .s5s3) (r.plant.after (opening .s5s3) [])
      ((onPlant r (·.setApReset true)).sequenceOn m.plan.primary).2.plant :=
    Rig.sequenceOnWithin_does _ m.plan.primary r.rails.timing.stepTimeout
  simp only [raisePrimary]
  split
  · exact .of_does .s0s3 (raised.trans (fail_does .s5s3 m .sequenceFailure .s0s3 _))
  · exact .of_does .s3 raised

theorem raiseUpper_plays : Plays .s3 (m.raiseUpper r).1 r.plant (m.raiseUpper r).2.2.plant := by
  have looked : Does (scope .s3) (r.plant.after (opening .s3) [])
      (r.rails.allOn m.plan.primary r.plant).2 :=
    (r.rails.allOn_does m.plan.primary r.plant).mono Scope.look_switch
  have raised := looked.trans (raiseGroups_does m.timings.s3Rail m.plan.upperGroups
    { r with plant := (r.rails.allOn m.plan.primary r.plant).2 })
  simp only [raiseUpper]
  split
  · exact .of_does (s := .s3) .s3s5 (.none r.plant)
  · split
    · split
      · exact .of_does .s3s0 raised
      · have failed := raised.trans (fail_does .s3 m .sequenceFailure .s3s5 _)
        exact .of_does .s3s5 (failed.trans (m.lowerUpper_does _))
    · exact .of_does .s3s5 (looked.trans (fail_does .s3 m .powerGoodLost .s3s5
        { r with plant := (r.rails.allOn m.plan.primary r.plant).2 }))

theorem wait_within {s : PowerState} (waits : isWork s = Call.waits) :
    Scope.Within .wait (scope s) :=
  ⟨fun call kept => by rw [scope, waits]; exact kept, fun _ none => by cases none⟩

theorem awaitAp_plays : Plays .s3s0 (m.awaitAp r).1 r.plant (m.awaitAp r).2.2.plant := by
  have waited : Does (scope .s3s0) (r.plant.after (opening .s3s0) [])
      (m.waitComposite m.timings.apFirst r).2.plant :=
    (m.waitComposite_does m.timings.apFirst r).mono (wait_within rfl)
  simp only [awaitAp]
  split
  · exact .of_does .s0 waited
  · exact .of_does .s0s3 (waited.trans (fail_does .s3s0 m .powerGoodLost .s0s3 _))

theorem watchAp_plays : Plays .s0 (m.watchAp r).1 r.plant (m.watchAp r).2.2.plant := by
  have waited : Does (scope .s0) (r.plant.after (opening .s0) [])
      (m.waitComposite m.timings.apDebounce r).2.plant :=
    (m.waitComposite_does m.timings.apDebounce r).mono (wait_within rfl)
  simp only [watchAp]
  split
  · exact .of_does (s := .s0) .s0s3 (.none r.plant)
  · split
    · exact .of_does .s0 waited
    · exact .of_does .s0s3 (waited.trans (fail_does .s0 m .powerGoodLost .s0s3 _))

theorem suspend_plays : Plays .s0s3 (m.suspend r).1 r.plant (m.suspend r).2.2.plant := by
  let held := onPlant r fun p => (p.notify .suspend).setApReset true
  have lowered : Does (scope .s0s3) (r.plant.after (opening .s0s3) []) (m.lowerUpper held).plant :=
    m.lowerUpper_does held
  simp only [suspend]
  split
  · -- The note is entered after the last call, but what becomes of a board is not up to the journal.
    let time := (onPlant (m.lowerUpper held) (·.setIdleSleep true)).plant.now
    exact .of_does .s3 (lowered.trans (m.forceShutdown_does .powerButton time _ rfl))
  · exact .of_does .s3 lowered

theorem lowerPrimary_plays :
    Plays .s3s5 (m.lowerPrimary r).1 r.plant (m.lowerPrimary r).2.2.plant :=
  have lowered : Does (scope .s3s5) (r.plant.after (opening .s3s5) []) (m.lowerPrimary r).2.2.plant :=
    (onPlant r (·.notify .shutdown)).sequenceOff_does m.plan.primary
  .of_does .s5 lowered

theorem next_plays : Plays m.state (m.next r).1 r.plant (m.next r).2.2.plant := by
  cases hs : m.state <;> simp only [next, hs]
  case g3 =>
    split
    · exact .of_does (s := .g3) .g3s5 (.none r.plant)
    · exact .of_does (s := .g3) .g3 (.none r.plant)
  case g3s5 => exact .of_does (s := .g3s5) .s5 (.none r.plant)
  case s5 => exact .of_does (s := .s5) _ (.none r.plant)
  case s5g3 => exact .of_does (s := .s5g3) .g3 (.none r.plant)
  case s5s3 => exact m.raisePrimary_plays r
  case s3 => exact m.raiseUpper_plays r
  case s3s0 => exact m.awaitAp_plays r
  case s0 => exact m.watchAp_plays r
  case s0s3 => exact m.suspend_plays r
  case s3s5 => exact m.lowerPrimary_plays r

def changeNote (s s' : PowerState) (time : Instant) : List Note :=
  if s' = s then [] else [⟨.powerTransition s', .transition s s', time⟩]

theorem handle_plays : ∃ calls notes,
    (m.handle r).2.plant = r.plant.after calls
      (notes ++ changeNote m.state (m.handle r).1.state (m.handle r).2.plant.now) ∧
      Script m.state (m.handle r).1.state calls ∧
      ∀ note ∈ notes, note.event.isTransition = false := by
  obtain ⟨calls, notes, same, script, plain⟩ := m.next_plays r
  rw [handle_state]
  refine ⟨calls, notes, ?_, script, plain⟩
  rw [← List.append_nil calls, ← Plant.after_after, ← same]
  simp only [handle, changeNote]
  split <;> rfl

def pulse (m : Sequencer) : List Call :=
  match m.state with
  | .s0 | .s3s0 => [.setApReset true, .sleep m.timings.resetPulse, .setApReset false]
  | _ => []

theorem reset_plays (reason : ResetReason) (p : Plant σ) :
    ∃ notes, (m.reset reason p).2.2 = p.after m.pulse notes := by
  cases hs : m.state <;> simp only [reset, pulse, hs]
  case s0 | s3s0 => exact ⟨[⟨.chipsetReset reason, .none, p.now⟩], rfl⟩
  all_goals exact ⟨[], rfl⟩

end Sequencer

namespace PowerTrain

variable {σ : Type}

def watch (t : PowerTrain σ) : PowerTrain (Watched σ) :=
  ⟨t.sequencer, ⟨t.rig.plant.watch, t.rig.rails⟩⟩

variable [Board σ]

def calls (t : PowerTrain σ) (q : Request σ) : List Call :=
  ((t.watch.apply (q.map Plant.watch)).tape.map Prod.fst).reverse

def trace (t : PowerTrain σ) : List (Request σ) → List Call
  | [] => []
  | q :: rest => t.calls q ++ (t.apply q).trace rest

theorem trace_concat (t : PowerTrain σ) (qs : List (Request σ)) (q : Request σ) :
    t.trace (qs ++ [q]) = t.trace qs ++ (t.run qs).calls q := by
  induction qs generalizing t with
  | nil => simp [trace, run]
  | cons first rest ih => simp only [List.cons_append, trace, run, ih, List.append_assoc]

theorem watch_apply (t : PowerTrain σ) (q : Request σ) :
    (t.watch.apply (q.map Plant.watch)).seen (View.unwatch σ) () = t.apply q := by
  obtain ⟨_, _, same⟩ := apply_tells (View.unwatch σ) t.watch (q.map Plant.watch)
  have back := same ()
  change (t.watch.seen (View.unwatch σ) ()).apply ((q.map Plant.watch).map Plant.unwatch) = _ at back
  rw [q.map_unwatch_watch] at back
  exact back.symm

theorem watch_sequencer (t : PowerTrain σ) (q : Request σ) :
    (t.watch.apply (q.map Plant.watch)).sequencer = (t.apply q).sequencer :=
  congrArg PowerTrain.sequencer (t.watch_apply q)

def onset (t : PowerTrain σ) : Request σ → Plant σ
  | .outside plant => plant
  | _ => t.rig.plant

def Script (t : PowerTrain σ) : Request σ → List Call → Prop
  | .handle, calls => Sequencer.Script t.state (t.apply .handle).state calls
  | .serviceFaults, calls => ∀ call ∈ calls, call.switches = true
  | .reset _, calls => calls = t.sequencer.pulse
  | _, calls => calls = []

theorem serviceFaults_does (t : PowerTrain σ) :
    Does .switch t.rig.plant t.serviceFaults.rig.plant := by
  have checked := t.rig.runFaultCheck_does
  simp only [serviceFaults]
  split
  · split
    · exact checked
    · exact checked.trans (Sequencer.forceShutdown_does _ .supplyFault _ _ rfl)
  · exact .none _

theorem apply_plays (t : PowerTrain σ) (q : Request σ) :
    ∃ calls notes, (t.apply q).rig.plant = (t.onset q).after calls notes ∧ t.Script q calls := by
  cases q with
  | handle =>
    obtain ⟨calls, notes, same, script, _⟩ := t.sequencer.handle_plays t.rig
    exact ⟨calls, _, same, script⟩
  | serviceFaults =>
    obtain ⟨calls, notes, same, called, _⟩ := t.serviceFaults_does
    exact ⟨calls, notes, same, called⟩
  | forceShutdown reason time =>
    obtain ⟨notes, same, _⟩ := t.sequencer.forceShutdown_after reason time t.rig.plant
    exact ⟨[], notes, same, rfl⟩
  | reset reason =>
    obtain ⟨notes, same⟩ := t.sequencer.reset_plays reason t.rig.plant
    exact ⟨_, notes, same, rfl⟩
  | exitHardOff | setButtonHeld _ | requestFaultCheck | outside _ => exact ⟨[], [], rfl, rfl⟩

theorem Script.of_watch {t : PowerTrain σ} {q : Request σ} {calls : List Call}
    (h : t.watch.Script (q.map Plant.watch) calls) : t.Script q calls := by
  cases q with
  | handle =>
    have state := congrArg Sequencer.state (t.watch_sequencer .handle)
    change _ = (t.apply .handle).state at state
    change Sequencer.Script _ _ _
    rw [← state]
    exact h
  | _ => exact h

theorem calls_of_after (t : PowerTrain σ) (q : Request σ) {calls : List Call} {notes : List Note}
    (same : (t.watch.apply (q.map Plant.watch)).rig.plant = (t.onset q).watch.after calls notes) :
    t.calls q = calls := by
  have tape := ((t.onset q).watch.watched_after calls notes).1
  rw [← same] at tape
  simp [PowerTrain.calls, PowerTrain.tape, tape, Plant.watch]

/-- The calls of a request are its script, and lead from the board that it finds to the board that
it leaves. -/
theorem calls_script (t : PowerTrain σ) (q : Request σ) :
    t.Script q (t.calls q) ∧
      (t.apply q).rig.plant.board = (t.calls q).foldl Call.run (t.onset q).board := by
  obtain ⟨calls, notes, same, script⟩ := t.watch.apply_plays (q.map Plant.watch)
  have onset : t.watch.onset (q.map Plant.watch) = (t.onset q).watch := by cases q <;> rfl
  rw [onset] at same
  have board := ((t.onset q).watch.watched_after calls notes).2
  rw [← same] at board
  rw [t.calls_of_after q same, ← t.watch_apply q]
  exact ⟨script.of_watch, board⟩

end PowerTrain

end BoardWarden
