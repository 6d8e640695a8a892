import BoardWarden.Proofs.Power.Unwinding
import BoardWarden.Proofs.Power.Views
import BoardWarden.Proofs.Power.Waits

set_option autoImplicit false

/-!
A forced shutdown goes all the way to hard off. Once the latch is set it is cleared only on the way
out of G3, the first reason is kept until then, and it is the only one that is entered into the
journal. What a call enters is told apart from what it finds there by running it with every journal.
-/

namespace BoardWarden

namespace PowerTrain

variable {σ : Type}

def withJournal (t : PowerTrain σ) (j : Journal) : PowerTrain σ :=
  { t with rig := { t.rig with plant := t.rig.plant.withJournal j } }

def reason? (t : PowerTrain σ) : Option ShutdownReason := t.sequencer.lastShutdown

variable [Board σ]

/-- The request enters these notes, whatever the journal holds. What happens outside enters none of
its own. -/
def Enters (t : PowerTrain σ) (q : Request σ) (notes : List Note) : Prop :=
  ∀ j : Journal, (t.withJournal j).apply (q.map (·.withJournal j)) =
    (t.apply q).withJournal (j.enterAll notes)

def Logs (t : PowerTrain σ) : List (Request σ) → List Note → Prop
  | [], notes => notes = []
  | q :: rest, notes =>
    ∃ own later, notes = own ++ later ∧ t.Enters q own ∧ (t.apply q).Logs rest later

def staysLatched (t : PowerTrain σ) : List (Request σ) → Bool
  | [] => t.forcing
  | q :: rest => t.forcing && (t.apply q).staysLatched rest

/-- No wait of the train would turn out otherwise if it had more turns. -/
def Settles (good : σ → Prop) (t : PowerTrain σ) : Prop :=
  ∀ (timeout : Span) (extra : Nat) (r : Rig σ), r.rails.timing = t.rig.rails.timing →
    good r.plant.board →
    let deadline := r.plant.now.after timeout
    let turns := deadline.micros - r.plant.now.micros
    (∀ rail, Rig.awaitOn rail deadline (turns + extra) r = Rig.awaitOn rail deadline turns r) ∧
      t.sequencer.awaitGood r.rails deadline (turns + extra) r.plant =
        t.sequencer.awaitGood r.rails deadline turns r.plant

theorem Enters.unique {t : PowerTrain σ} {q : Request σ} {notes notes' : List Note}
    (h : t.Enters q notes) (h' : t.Enters q notes') : notes = notes' :=
  Journal.enterAll_injective fun j =>
    congrArg (fun t : PowerTrain σ => t.rig.plant.journal) ((h j).symm.trans (h' j))

theorem Logs.unique {t : PowerTrain σ} {qs : List (Request σ)} {notes notes' : List Note}
    (h : t.Logs qs notes) (h' : t.Logs qs notes') : notes = notes' := by
  induction qs generalizing t notes notes' with
  | nil => exact h.trans h'.symm
  | cons q rest ih =>
    obtain ⟨own, later, rfl, entered, logged⟩ := h
    obtain ⟨own', later', rfl, entered', logged'⟩ := h'
    rw [entered.unique entered', ih logged logged']

theorem apply_enters (t : PowerTrain σ) (q : Request σ) :
    ∃ notes, Latches (t.grounds q) t.sequencer (t.apply q).sequencer (forcedBy notes) ∧
      t.Enters q notes :=
  apply_tells (View.journal σ) t q

theorem staysLatched_forcing (t : PowerTrain σ) (qs : List (Request σ))
    (latched : t.staysLatched qs = true) : t.forcing = true := by
  cases qs with
  | nil => exact latched
  | cons q rest => exact (Bool.and_eq_true_iff.1 latched).1

theorem latched_silent (t : PowerTrain σ) (qs : List (Request σ))
    (latched : t.staysLatched qs = true) :
    (t.run qs).reason? = t.reason? ∧
      ∃ notes, t.Logs qs notes ∧ forcedBy notes = [] := by
  induction qs generalizing t with
  | nil => exact ⟨rfl, [], rfl, rfl⟩
  | cons q rest ih =>
    obtain ⟨forcing, rests⟩ := Bool.and_eq_true_iff.1 latched
    obtain ⟨kept, later, logged, silent⟩ := ih (t.apply q) rests
    obtain ⟨own, latches, entered⟩ := t.apply_enters q
    generalize reasons_eq : forcedBy own = reasons at latches
    -- A request that enters a forced shutdown finds the latch clear.
    cases latches with
    | spared same _ =>
      refine ⟨kept.trans same, own ++ later, ⟨own, later, rfl, entered, logged⟩, ?_⟩
      rw [forcedBy_append, reasons_eq, silent, List.append_nil]
    | set _ _ clear _ _ => cases forcing.symm.trans clear

/-- The call that sets the latch enters the one forced shutdown, and its reason is kept as long as
the latch is set. -/
theorem latch_keeps_reason (t : PowerTrain σ) (clear : t.forcing = false) (q : Request σ)
    (held : List (Request σ)) (latched : (t.apply q).staysLatched held = true) :
    ∃ reason ∈ t.grounds q, (t.run (q :: held)).reason? = some reason ∧
      ∃ notes, (∀ notes', t.Logs (q :: held) notes' ↔ notes' = notes) ∧
        forcedBy notes = [reason] := by
  obtain ⟨kept, later, logged, silent⟩ := (t.apply q).latched_silent held latched
  obtain ⟨own, latches, entered⟩ := t.apply_enters q
  generalize reasons_eq : forcedBy own = reasons at latches
  cases latches with
  | spared _ unset =>
    have forcing := unset ((t.apply q).staysLatched_forcing held latched)
    cases clear.symm.trans forcing
  | set reason cause _ _ first =>
    have logs : t.Logs (q :: held) (own ++ later) := ⟨own, later, rfl, entered, logged⟩
    refine ⟨reason, cause, kept.trans first, own ++ later, fun notes' => ?_, ?_⟩
    · exact ⟨fun logs' => logs'.unique logs, fun same => same ▸ logs⟩
    · rw [forcedBy_append, reasons_eq, silent, List.append_nil]

theorem Moves.clears {s s' : PowerState} {f' : Bool} (h : Moves s true s' f') :
    f' = false ↔ s = .g3s5 := by
  cases h <;> simp

theorem latch_cleared_iff (t : PowerTrain σ) (forcing : t.forcing = true) (q : Request σ) :
    (t.apply q).forcing = false ↔ q = .handle ∧ t.state = .g3s5 := by
  by_cases step : q = .handle
  · subst step
    have move := t.handle_moves
    rw [forcing] at move
    simpa using move.clears
  · have kept := (t.apply_state q step).2 forcing
    simp [step, kept]

/-- On a board that keeps time the waits end by their own test, if their polls take time. -/
theorem settles_of_clock {good : σ → Prop} (t : PowerTrain σ) (clock : KeepsTime good)
    (railPoll : 1 ≤ t.rig.rails.timing.poll.micros) (poll : 1 ≤ t.sequencer.timings.poll.micros) :
    t.Settles good := by
  intro timeout extra r same fine deadline turns
  have fits : deadline.micros ≤ Instant.last := Nat.min_le_right _ _
  refine ⟨fun rail => ?_, ?_⟩
  · exact clock.awaitOn_settles rail deadline fits extra turns r fine (by rw [same]; exact railPoll)
      (Nat.le_refl _)
  · exact clock.awaitGood_settles t.sequencer r.rails deadline fits poll extra turns r.plant fine
      (Nat.le_refl _)

theorem Rested.settles {timing : RailTiming} {plan : PowerPlan} {timings : PowerTimings}
    {good : σ → Prop} {t : PowerTrain σ} (h : Rested timing plan timings t) (clock : KeepsTime good)
    (railPoll : 1 ≤ timing.poll.micros) (poll : 1 ≤ timings.poll.micros) : t.Settles good :=
  t.settles_of_clock clock (by rw [h.timing_eq]; exact railPoll) (by rw [h.timings_eq]; exact poll)

/-- A latched forced shutdown unwinds to hard off and keeps its first reason. On every run from all
rails off: the latch is set wherever the sequencer only goes down; it is cleared only on the way out
of G3; while it is set and G3 is not yet reached, one of the next seven steps reaches it, with every
rail of the plan down, whatever else is asked and whatever the board answers; from the call that sets
the latch on, its reason is kept and is the only forced shutdown in the journal; and on a board that
keeps time every wait on the way ends by its own test. -/
theorem run_hard_off (table : List Rail) (timing : RailTiming) (plan : PowerPlan)
    (timings : PowerTimings) (plant : Plant σ) (distinct : plan.rails.Nodup)
    (before : List (Request σ)) :
    let t := (fresh table timing plan timings plant).run before
    (t.state ∈ [PowerState.s0s3, .s3s5, .s5g3] → t.forcing = true) ∧
      (t.forcing = true → ∀ q, (t.apply q).forcing = false ↔ q = .handle ∧ t.state = .g3s5) ∧
      (t.forcing = true → t.state ∉ [PowerState.g3, .g3s5] → ∀ qs, 7 ≤ handles qs →
        ∃ calls rest, qs = calls ++ .handle :: rest ∧ handles calls < 7 ∧
          (t.run (calls ++ [.handle])).state = .g3 ∧
          (t.run (calls ++ [.handle])).rig.rails.Down plan.rails) ∧
      (t.forcing = false → ∀ q held, (t.apply q).staysLatched held = true →
        ∃ reason ∈ t.grounds q, (t.run (q :: held)).reason? = some reason ∧
          ∃ notes, (∀ notes', t.Logs (q :: held) notes' ↔ notes' = notes) ∧
            forcedBy notes = [reason]) ∧
      ∀ good, KeepsTime good → 1 ≤ timing.poll.micros → 1 ≤ timings.poll.micros →
        t.Settles good := by
  intro t
  have rested : Rested timing plan timings t := run_rested table plant distinct before
  refine ⟨fun down => ?_, t.latch_cleared_iff, fun forcing up qs enough => ?_,
    t.latch_keeps_reason, fun good clock => rested.settles clock⟩
  · refine run_latched _ before (fresh_latched table timing plan timings plant) ?_
    change isDescent t.state = true
    revert down
    cases t.state <;> decide
  · have bounds : 0 < rank t.state ∧ rank t.state ≤ 7 := by
      revert up
      cases t.state <;> decide
    obtain ⟨calls, rest, split, few, off⟩ :=
      t.run_unwinds qs forcing bounds.1 (Nat.le_trans bounds.2 enough)
    refine ⟨calls, rest, split, Nat.lt_of_lt_of_le few bounds.2, off, ?_⟩
    have rests := (run_invariant _ (apply_rested distinct) t (calls ++ [.handle]) rested).rests
    rw [off] at rests
    exact rests

/-- The carrier on its bench is shut down in S0 by the host. It comes to G3 with its rails down, and
the host stays the reason. -/
theorem carrier_goes_hard_off :
    let start := fresh Carrier.rails RailTiming.builtIn Carrier.plan PowerTimings.builtIn
      ⟨Carrier.bench, Journal.fresh⟩
    let climb : List (Request Bench) := .exitHardOff :: List.replicate 6 .handle
    let shut : Request Bench := .forceShutdown .host Instant.zero
    let down : List (Request Bench) := List.replicate 7 .handle
    let up := start.run climb
    let t := start.run (climb ++ [shut])
    (t.state = .s0 ∧ t.forcing = true ∧
        ∃ calls rest, down = calls ++ .handle :: rest ∧ handles calls < 7 ∧
          (t.run (calls ++ [.handle])).state = .g3 ∧
          (t.run (calls ++ [.handle])).rig.rails.Down Carrier.plan.rails) ∧
      (up.forcing = false ∧ (up.apply shut).staysLatched down.tail = true ∧
        ∃ reason ∈ up.grounds shut, (up.run (shut :: down.tail)).reason? = some reason ∧
          ∃ notes, (∀ notes', up.Logs (shut :: down.tail) notes' ↔ notes' = notes) ∧
            forcedBy notes = [reason]) ∧
      up.Settles fun b => b.time.micros ≤ Instant.last := by
  intro start climb shut down up t
  have distinct : Carrier.plan.rails.Nodup := by decide
  have s0 : t.state = .s0 := by decide +kernel
  have forcing : t.forcing = true := by decide +kernel
  have clear : up.forcing = false := by decide +kernel
  have latched : (up.apply shut).staysLatched down.tail = true := by decide +kernel
  have lowered := run_hard_off Carrier.rails RailTiming.builtIn Carrier.plan PowerTimings.builtIn
    ⟨Carrier.bench, Journal.fresh⟩ distinct (climb ++ [shut])
  have raised := run_hard_off Carrier.rails RailTiming.builtIn Carrier.plan PowerTimings.builtIn
    ⟨Carrier.bench, Journal.fresh⟩ distinct climb
  obtain ⟨_, _, unwinds, _, _⟩ := lowered
  obtain ⟨_, _, _, keeps, settles⟩ := raised
  have up' : t.state ∉ [PowerState.g3, .g3s5] := by
    rw [s0]
    decide
  have enough : 7 ≤ handles down := by decide
  exact ⟨⟨s0, forcing, unwinds forcing up' down enough⟩,
    ⟨clear, latched, keeps clear shut down.tail latched⟩,
    settles _ Bench.keepsTime (by decide) (by decide)⟩

end PowerTrain

end BoardWarden
