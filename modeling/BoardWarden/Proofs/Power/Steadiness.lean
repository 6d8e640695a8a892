import BoardWarden.Proofs.Power.HardOff
import BoardWarden.Proofs.Power.Script

set_option autoImplicit false

namespace BoardWarden

namespace Sequencer

theorem isSteady_cases {m : Sequencer} (steady : m.isSteady = true) :
    (m.state = .g3 ∧ m.exitRequested = false) ∨ (m.state = .s0 ∧ m.forcingShutdown = false) := by
  unfold isSteady at steady
  split at steady <;> simp_all

variable {σ : Type} [Board σ] (m : Sequencer)

theorem awaitGood_good (rails : RailBank) (deadline : Instant) (fuel : Nat) (p : Plant σ)
    (good : (m.compositeGood rails p).1 = true) :
    m.awaitGood rails deadline fuel p = m.compositeGood rails p := by
  cases fuel with
  | zero => rfl
  | succ fuel => simp only [awaitGood, good, Bool.true_or, ↓reduceIte]

theorem handle_steady (r : Rig σ) (steady : m.isSteady = true)
    (good : m.state = .g3 ∨ (m.compositeGood r.rails r.plant).1 = true) :
    ∃ calls, m.handle r = (m, { r with plant := r.plant.after calls [] }) ∧
      ∀ call ∈ calls, call.looks = true := by
  rcases isSteady_cases steady with ⟨state, unasked⟩ | ⟨state, clear⟩
  · refine ⟨[], ?_, List.forall_mem_nil _⟩
    simp only [handle, next, state, unasked, Bool.false_eq_true, ↓reduceIte]
    rfl
  · have powered : (m.compositeGood r.rails r.plant).1 = true := by
      simpa [state] using good
    obtain ⟨calls, notes, looked, called, none⟩ := m.compositeGood_does r.rails r.plant
    have silent : notes = [] := List.eq_nil_iff_forall_not_mem.2 fun note listed => by
      cases none note listed
    refine ⟨calls, ?_, called⟩
    simp only [handle, next, state, watchAp, clear, Bool.false_eq_true, ↓reduceIte, waitComposite,
      m.awaitGood_good _ _ _ _ powered, powered]
    rw [looked, silent]

end Sequencer

namespace PowerTrain

theorem Moves.stays {s : PowerState} {f f' : Bool} (h : Moves s f s f') :
    s = .g3 ∨ s = .s0 ∧ f = false := by
  cases h <;> simp

variable {σ τ ι : Type} [Board σ] [Board τ]

def powerGood (t : PowerTrain σ) : Bool := (t.sequencer.compositeGood t.rig.rails t.rig.plant).1

theorem powerGood_seen (v : View σ τ ι) (i : ι) (t : PowerTrain σ) :
    (t.seen v i).powerGood = t.powerGood :=
  congrArg Prod.fst (v.compositeGood i t.rig.plant t.sequencer t.rig.rails)

theorem handle_leaves (t : PowerTrain σ) (busy : t.sequencer.isSteady = false) :
    (t.apply .handle).state ≠ t.state := by
  intro same
  have move := t.handle_moves
  rw [same] at move
  rcases move.stays with home | ⟨up, clear⟩
  · have asked : t.sequencer.exitRequested = true := by
      simpa [Sequencer.isSteady, show t.sequencer.state = .g3 from home] using busy
    change (t.sequencer.handle t.rig).1.state = t.sequencer.state at same
    rw [Sequencer.handle_state, show t.sequencer.state = .g3 from home] at same
    simp [Sequencer.next, show t.sequencer.state = .g3 from home, asked] at same
  · simp [Sequencer.isSteady, show t.sequencer.state = .s0 from up,
      show t.sequencer.forcingShutdown = false from clear] at busy

theorem Enters.shown {t : PowerTrain σ} {q : Request σ} {notes : List Note} (h : t.Enters q notes) :
    ∃ j : Journal, ∀ notes',
      ((t.withJournal j).apply (q.map (·.withJournal j))).rig.plant.journal = j.enterAll notes' →
        notes' = notes := by
  let j := Journal.ofCapacity (notes.length + 1)
  refine ⟨j, fun notes' same => ?_⟩
  have entered := congrArg (fun t : PowerTrain σ => t.rig.plant.journal) (h j)
  change _ = j.enterAll notes at entered
  refine (Journal.enterAll_cancel j ?_ (entered.symm.trans same)).symm
  simp [j, Journal.ofCapacity]

theorem handle_enters (t : PowerTrain σ) :
    ∃ notes, (∀ note ∈ notes, note.event.isTransition = false) ∧
      t.Enters .handle (notes ++ Sequencer.changeNote t.state (t.apply .handle).state
        (t.apply .handle).rig.plant.now) := by
  obtain ⟨all, _, entered⟩ := t.apply_enters .handle
  obtain ⟨j, shown⟩ := Enters.shown entered
  have same : (t.withJournal j).apply .handle = (t.apply .handle).withJournal (j.enterAll all) :=
    entered j
  obtain ⟨calls, notes, after, _, plain⟩ :=
    (t.withJournal j).sequencer.handle_plays (t.withJournal j).rig
  have own := shown _ (congrArg Plant.journal after)
  change notes ++ Sequencer.changeNote t.state ((t.withJournal j).apply .handle).state
    ((t.withJournal j).apply .handle).rig.plant.now = all at own
  rw [same] at own
  refine ⟨notes, plain, ?_⟩
  change notes ++ Sequencer.changeNote t.state (t.apply .handle).state
    (t.apply .handle).rig.plant.now = all at own
  rw [own]
  exact entered

theorem Enters.iff {t : PowerTrain σ} {q : Request σ} {notes : List Note} (h : t.Enters q notes)
    (notes' : List Note) : t.Enters q notes' ↔ notes' = notes :=
  ⟨fun h' => h'.unique h, fun same => same ▸ h⟩

/-- A step with work left enters one change of state, from the old state to the new. -/
theorem busy_enters (t : PowerTrain σ) (busy : t.sequencer.isSteady = false) :
    let t' := t.apply .handle
    ∃ notes, (∀ notes', t.Enters .handle notes' ↔ notes' = notes) ∧
      notes.filter (fun note => note.event.isTransition) =
        [⟨.powerTransition t'.state, .transition t.state t'.state, t'.rig.plant.now⟩] := by
  intro t'
  obtain ⟨notes, plain, entered⟩ := t.handle_enters
  have left := t.handle_leaves busy
  rw [Sequencer.changeNote, if_neg left] at entered
  refine ⟨_, entered.iff, ?_⟩
  have others : notes.filter (fun note => note.event.isTransition) = [] :=
    List.filter_eq_nil_iff.2 fun note listed => by simp [plain note listed]
  rw [List.filter_append, others]
  rfl

theorem steady_rests (t : PowerTrain σ) (steady : t.sequencer.isSteady = true)
    (good : t.state = .g3 ∨ t.powerGood = true) :
    let t' := t.apply .handle
    t'.sequencer = t.sequencer ∧ t'.rig.rails = t.rig.rails ∧
      (∀ notes, t.Enters .handle notes ↔ notes = []) ∧
      ∀ call ∈ t.calls .handle, call.looks = true := by
  intro t'
  obtain ⟨_, same, _⟩ := t.sequencer.handle_steady t.rig steady good
  refine ⟨congrArg Prod.fst same, congrArg (fun done => done.2.rails) same, ?_, ?_⟩
  · obtain ⟨all, _, entered⟩ := t.apply_enters .handle
    obtain ⟨j, shown⟩ := Enters.shown entered
    have good' : t.state = .g3 ∨ (t.withJournal j).powerGood = true :=
      good.imp id (t.powerGood_seen (View.journal σ) j).trans
    obtain ⟨_, same', _⟩ := t.sequencer.handle_steady (t.withJournal j).rig steady good'
    rw [shown [] (congrArg (fun done => done.2.plant.journal) same')]
    exact entered.iff
  · have good' : t.state = .g3 ∨ t.watch.powerGood = true :=
      good.imp id (t.watch.powerGood_seen (View.unwatch σ) ()).symm.trans
    obtain ⟨calls, same', looks⟩ := t.sequencer.handle_steady t.watch.rig steady good'
    rw [t.calls_of_after .handle (congrArg (fun done => done.2.plant) same')]
    exact looks

/-- To be steady is to have nothing to do. While the sequencer is not steady, its next step changes
the state and enters this change once, from the old state to the new. While it is steady, and in G3 or
with power good, its next step leaves the sequencer and the rails as they are, enters nothing and calls
for nothing but readings, so that no time passes unless to take a reading takes time. And on a board
that keeps time no wait on the way would go on for longer, if its polls take time. -/
theorem steady_exact (t : PowerTrain σ) :
    let t' := t.apply .handle
    (t.sequencer.isSteady = false → t'.state ≠ t.state ∧
        ∃ notes, (∀ notes', t.Enters .handle notes' ↔ notes' = notes) ∧
          notes.filter (fun note => note.event.isTransition) =
            [⟨.powerTransition t'.state, .transition t.state t'.state, t'.rig.plant.now⟩]) ∧
      (t.sequencer.isSteady = true → t.state = .g3 ∨ t.powerGood = true →
        t'.sequencer = t.sequencer ∧ t'.rig.rails = t.rig.rails ∧
          (∀ notes, t.Enters .handle notes ↔ notes = []) ∧
          (∀ call ∈ t.calls .handle, call.looks = true) ∧
          ((∀ (b : σ) (call : Call), call.looks = true → Board.now (call.run b) = Board.now b) →
            t'.rig.plant.now = t.rig.plant.now)) ∧
      ∀ good, KeepsTime good → 1 ≤ t.rig.rails.timing.poll.micros →
        1 ≤ t.sequencer.timings.poll.micros → t.Settles good := by
  intro t'
  refine ⟨fun busy => ⟨t.handle_leaves busy, t.busy_enters busy⟩, fun steady good => ?_,
    fun good clock => t.settles_of_clock clock⟩
  obtain ⟨same, rails, entered, looks⟩ := t.steady_rests steady good
  refine ⟨same, rails, entered, looks, fun instant => ?_⟩
  change Board.now t'.rig.plant.board = _
  rw [(t.calls_script .handle).2]
  exact Call.now_of_looks instant _ _ looks

/-- The carrier in S0 is steady and stays as it is. Shut down by the host it is not, and the next step
turns to the way down. -/
theorem carrier_steady :
    let start := fresh Carrier.rails RailTiming.builtIn Carrier.plan PowerTimings.builtIn
      ⟨Carrier.bench, Journal.fresh⟩
    let up := start.run (.exitHardOff :: List.replicate 6 .handle)
    let shut := up.apply (.forceShutdown .host Instant.zero)
    (up.state = .s0 ∧ up.sequencer.isSteady = true ∧ up.powerGood = true ∧
        (up.apply .handle).sequencer = up.sequencer ∧
        (∀ notes, up.Enters .handle notes ↔ notes = []) ∧
        (up.apply .handle).rig.plant.now = up.rig.plant.now) ∧
      (shut.sequencer.isSteady = false ∧ (shut.apply .handle).state = .s0s3 ∧
        ∃ notes, (∀ notes', shut.Enters .handle notes' ↔ notes' = notes) ∧
          notes.filter (fun note => note.event.isTransition) =
            [⟨.powerTransition .s0s3, .transition .s0 .s0s3, (shut.apply .handle).rig.plant.now⟩]) ∧
      up.Settles fun b => b.time.micros ≤ Instant.last := by
  intro start up shut
  have s0 : up.state = .s0 := by decide +kernel
  have steady : up.sequencer.isSteady = true := by decide +kernel
  have good : up.powerGood = true := by decide +kernel
  have held : shut.state = .s0 := by decide +kernel
  have busy : shut.sequencer.isSteady = false := by decide +kernel
  have down : (shut.apply .handle).state = .s0s3 := by decide +kernel
  have instant : ∀ (b : Bench) (call : Call), call.looks = true →
      Board.now (call.run b) = Board.now b := by
    intro b call looks
    cases call <;> first | rfl | cases looks
  obtain ⟨_, rests, settles⟩ := steady_exact up
  obtain ⟨same, _, entered, _, stands⟩ := rests steady (.inr good)
  obtain ⟨_, changes⟩ := (steady_exact shut).1 busy
  refine ⟨⟨s0, steady, good, same, entered, stands instant⟩, ⟨busy, down, ?_⟩,
    settles _ Bench.keepsTime (by decide +kernel) (by decide +kernel)⟩
  rw [down, held] at changes
  exact changes

end PowerTrain

end BoardWarden
