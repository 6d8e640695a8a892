import BoardWarden.Proofs.Power.Train
import BoardWarden.Proofs.Rail.Views

set_option autoImplicit false

namespace BoardWarden

/-- A forced shutdown is entered as the latch is set, with the reason that is kept, and there is no
other. -/
inductive Latches (causes : List ShutdownReason) (m m' : Sequencer) : List ShutdownReason → Prop where
  | spared (reason : m'.lastShutdown = m.lastShutdown)
      (latch : m'.forcingShutdown = true → m.forcingShutdown = true) : Latches causes m m' []
  | set (reason : ShutdownReason) (cause : reason ∈ causes) (clear : m.forcingShutdown = false)
      (latch : m'.forcingShutdown = true) (kept : m'.lastShutdown = some reason) :
      Latches causes m m' [reason]

theorem Latches.congr {causes : List ShutdownReason} {m m' m'' : Sequencer}
    {reasons : List ShutdownReason} (h : Latches causes m m' reasons)
    (reason : m''.lastShutdown = m'.lastShutdown) (latch : m''.forcingShutdown = m'.forcingShutdown) :
    Latches causes m m'' reasons := by
  cases h with
  | spared same unset => exact .spared (reason.trans same) fun set => unset (latch ▸ set)
  | set _ cause clear set kept => exact .set _ cause clear (latch.trans set) (reason.trans kept)

def Sequencer.grounds : PowerState → List ShutdownReason
  | .s5s3 => [.sequenceFailure]
  | .s3 => [.sequenceFailure, .powerGoodLost]
  | .s3s0 | .s0 => [.powerGoodLost]
  | .s0s3 => [.powerButton]
  | .g3 | .g3s5 | .s5 | .s3s5 | .s5g3 => []

namespace View

variable {σ τ ι : Type} [Board σ] [Board τ] (v : View σ τ ι)

section Looks

variable (i : ι) (p : Plant σ)

theorem allGroupsOn (rails : RailBank) (groups : List (List Step)) :
    Sequencer.allGroupsOn rails groups (v.see i p) =
      ((Sequencer.allGroupsOn rails groups p).1,
        v.see i (Sequencer.allGroupsOn rails groups p).2) := by
  induction groups generalizing p with
  | nil => rfl
  | cons group rest ih =>
    simp only [Sequencer.allGroupsOn, v.allOn, ih]
    split <;> rfl

theorem compositeGood (m : Sequencer) (rails : RailBank) : m.compositeGood rails (v.see i p) =
    ((m.compositeGood rails p).1, v.see i (m.compositeGood rails p).2) := by
  simp only [Sequencer.compositeGood, v.allGroupsOn, v.readLine]
  repeat' split
  all_goals rfl

theorem awaitGood (m : Sequencer) (rails : RailBank) (deadline : Instant) (fuel : Nat) :
    m.awaitGood rails deadline fuel (v.see i p) =
      ((m.awaitGood rails deadline fuel p).1, v.see i (m.awaitGood rails deadline fuel p).2) := by
  induction fuel generalizing p with
  | zero => simp only [Sequencer.awaitGood, v.compositeGood]
  | succ fuel ih =>
    simp only [Sequencer.awaitGood, v.compositeGood, v.now, v.sleep, ih]
    split <;> rfl

end Looks

variable (r : Rig σ)

theorem onPlant_mirrors (f : {σ : Type} → [Board σ] → Plant σ → Plant σ)
    (same : ∀ i, f (v.see i r.plant) = v.see i (f r.plant)) :
    v.Mirrors (fun r => ((), Sequencer.onPlant r f)) r :=
  .plain fun i => by simp only [Sequencer.onPlant, rig, same]

theorem waitComposite_mirrors (m : Sequencer) (timeout : Span) :
    v.Mirrors (fun r => m.waitComposite timeout r) r :=
  .plain fun i => by simp only [Sequencer.waitComposite, rig, v.now, v.awaitGood]

theorem allOn_mirrors (steps : List Step) : v.Mirrors (fun r =>
    ((r.rails.allOn steps r.plant).1, { r with plant := (r.rails.allOn steps r.plant).2 })) r :=
  .plain fun i => by simp only [rig, v.allOn]

theorem raiseGroups_mirrors (timeout : Span) (groups : List (List Step)) :
    v.Mirrors (fun r => Sequencer.raiseGroups timeout groups r) r := by
  induction groups generalizing r with
  | nil => exact .rest _
  | cons group rest ih =>
    exact (v.sequenceOnWithin_mirrors r group timeout).attempt
      (e := fun _ => fun r => (false, r)) (g := fun r => Sequencer.raiseGroups timeout rest r)
      (fun _ => .rest _) (ih _)

theorem lowerGroups_mirrors (groups : List (List Step)) :
    v.Mirrors (fun r => ((), Sequencer.lowerGroups groups r)) r := by
  induction groups generalizing r with
  | nil => exact .rest _
  | cons group rest ih =>
    exact (v.sequenceOff_mirrors r group).bind
      (g := fun _ => fun r => ((), Sequencer.lowerGroups rest r)) (ih _)

theorem lowerUpper_mirrors (m : Sequencer) : v.Mirrors (fun r => ((), m.lowerUpper r)) r :=
  v.lowerGroups_mirrors r m.plan.upperGroups.reverse

def Tells {α : Type} (causes : List ShutdownReason) (m : Sequencer) (f : Act (α × Sequencer))
    (r : Rig σ) : Prop :=
  ∃ notes, Latches causes m (f r).1.2 (forcedBy notes) ∧ v.Keeps f r notes

variable {v} {r} {α β : Type} {causes : List ShutdownReason} {m : Sequencer}

theorem Mirrors.tells {f : Act α} {g : α → Act (β × Sequencer)} (h : v.Mirrors f r)
    (h' : v.Tells causes m (g (f r).1) (f r).2) :
    v.Tells causes m (fun r => g (f r).1 (f r).2) r := by
  obtain ⟨notes, silent, kept⟩ := h
  obtain ⟨notes', latches, kept'⟩ := h'
  refine ⟨notes ++ notes', ?_, kept.bind kept'⟩
  rwa [forcedBy_append, silent, List.nil_append]

theorem Tells.bind {f : Act (α × Sequencer)} {g : α × Sequencer → Act (β × Sequencer)}
    (h : v.Tells causes m f r) (h' : v.Mirrors (g (f r).1) (f r).2)
    (reason : (g (f r).1 (f r).2).1.2.lastShutdown = (f r).1.2.lastShutdown)
    (latch : (g (f r).1 (f r).2).1.2.forcingShutdown = (f r).1.2.forcingShutdown) :
    v.Tells causes m (fun r => g (f r).1 (f r).2) r := by
  obtain ⟨notes, latches, kept⟩ := h
  obtain ⟨notes', silent, kept'⟩ := h'
  refine ⟨notes ++ notes', ?_, kept.bind kept'⟩
  rw [forcedBy_append, silent, List.append_nil]
  exact latches.congr reason latch

/-- Nothing is forced, so a sequencer with the latch and the reason of `m` may answer. -/
theorem Mirrors.spared {f : Act α} (h : v.Mirrors f r) (b : β) (m' : Sequencer)
    (reason : m'.lastShutdown = m.lastShutdown)
    (latch : m'.forcingShutdown = true → m.forcingShutdown = true) :
    v.Tells causes m (fun r => ((b, m'), (f r).2)) r := by
  obtain ⟨notes, silent, kept⟩ := h.answer (b, m')
  exact ⟨notes, by rw [silent]; exact .spared reason latch, kept⟩

theorem Mirrors.same {f : Act α} (h : v.Mirrors f r) (b : β) :
    v.Tells causes m (fun r => ((b, m), (f r).2)) r := h.spared b m rfl id

variable (v) (r) (m)

theorem force_tells (reason : ShutdownReason) (cause : reason ∈ causes) (time : Instant) (b : β) :
    v.Tells causes m (fun r => ((b, (m.forceShutdown reason time r.plant.journal).1),
      { r with plant := { r.plant with
          journal := (m.forceShutdown reason time r.plant.journal).2 } })) r := by
  cases forcing : m.forcingShutdown with
  | true =>
    simp only [Sequencer.forceShutdown, forcing, ↓reduceIte]
    exact (Mirrors.rest ()).same b
  | false =>
    simp only [Sequencer.forceShutdown, forcing, Bool.false_eq_true, ↓reduceIte]
    refine ⟨[⟨.forcedShutdown reason, .none, time⟩], .set reason cause forcing rfl rfl, fun i => ?_⟩
    have entered := v.recordAt i r.plant (.forcedShutdown reason) .none time
    simp only [rig, enters, List.foldl_cons, List.foldl_nil]
    change (((b, _), (⟨(v.see i r.plant).recordAt (.forcedShutdown reason) .none time, _⟩ : Rig τ)) :
      (β × Sequencer) × Rig τ) = _
    rw [entered]
    rfl

def outcome {σ : Type} (done : PowerState × Sequencer × Rig σ) : (PowerState × Sequencer) × Rig σ :=
  ((done.1, done.2.1), done.2.2)

theorem fail_tells (reason : ShutdownReason) (cause : reason ∈ causes) (next : PowerState) :
    v.Tells causes m (fun r => outcome (m.fail reason next r)) r := by
  have now : v.Mirrors (fun r => (r.plant.now, r)) r := .plain fun i => by simp only [rig, v.now]
  exact now.tells (g := fun time => fun r => ((next, (m.forceShutdown reason time r.plant.journal).1),
    { r with plant := { r.plant with
        journal := (m.forceShutdown reason time r.plant.journal).2 } }))
    (v.force_tells r m reason cause r.plant.now next)

def primaryRaised {σ : Type} [Board σ] (m : Sequencer) (r : Rig σ) :
    Except RailError Unit → PowerState × Sequencer × Rig σ
  | .error _ => m.fail .sequenceFailure .s0s3 r
  | .ok () => (.s3, m, Sequencer.onPlant r fun p => (p.notify .preInit).notify .startup)

theorem raisePrimary_tells :
    v.Tells [.sequenceFailure] m (fun r => outcome (m.raisePrimary r)) r := by
  have raised : v.Mirrors (fun r =>
      (Sequencer.onPlant r (·.setApReset true)).sequenceOn m.plan.primary) r :=
    (v.onPlant_mirrors r (·.setApReset true) fun i => v.setApReset i r.plant true).bind
      (g := fun _ => fun r => r.sequenceOn m.plan.primary) (v.sequenceOn_mirrors _ m.plan.primary)
  refine raised.tells (g := fun raised => fun r => outcome (primaryRaised m r raised)) ?_
  cases ((Sequencer.onPlant r (·.setApReset true)).sequenceOn m.plan.primary).1 with
  | error _ => exact v.fail_tells _ m .sequenceFailure (by simp) .s0s3
  | ok _ =>
    exact (v.onPlant_mirrors _ (fun p => (p.notify .preInit).notify .startup)
      fun i => by simp only [v.notify]).same _

theorem raiseUpper_tells :
    v.Tells [.sequenceFailure, .powerGoodLost] m (fun r => outcome (m.raiseUpper r)) r := by
  cases forcing : m.forcingShutdown with
  | true =>
    simp only [Sequencer.raiseUpper, forcing, ↓reduceIte]
    exact (Mirrors.rest ()).same _
  | false =>
    simp only [Sequencer.raiseUpper, forcing, Bool.false_eq_true, ↓reduceIte]
    refine (v.allOn_mirrors r m.plan.primary).tells (g := fun live => fun r => outcome
      (if live then
        let raised := Sequencer.raiseGroups m.timings.s3Rail m.plan.upperGroups r
        if raised.1 then (.s3s0, m, Sequencer.onPlant raised.2 (·.setApReset false))
        else
          let failed := m.fail .sequenceFailure .s3s5 raised.2
          (failed.1, failed.2.1, m.lowerUpper failed.2.2)
      else m.fail .powerGoodLost .s3s5 r)) ?_
    split
    · refine (v.raiseGroups_mirrors _ m.timings.s3Rail m.plan.upperGroups).tells
        (g := fun raised => fun r => outcome
          (if raised then (.s3s0, m, Sequencer.onPlant r (·.setApReset false))
          else
            let failed := m.fail .sequenceFailure .s3s5 r
            (failed.1, failed.2.1, m.lowerUpper failed.2.2))) ?_
      split
      · exact (v.onPlant_mirrors _ (·.setApReset false) fun i => v.setApReset i _ false).same _
      · exact (v.fail_tells _ m .sequenceFailure (by simp) .s3s5).bind
          (g := fun failed => fun r => (failed, m.lowerUpper r))
          ((v.lowerUpper_mirrors _ m).answer _) rfl rfl
    · exact v.fail_tells _ m .powerGoodLost (by simp) .s3s5

theorem awaitAp_tells : v.Tells [.powerGoodLost] m (fun r => outcome (m.awaitAp r)) r := by
  refine (v.waitComposite_mirrors r m m.timings.apFirst).tells (g := fun good => fun r => outcome
    (if good then
      (.s0, m, Sequencer.onPlant r fun p => (p.notify .resume).setIdleSleep false)
    else m.fail .powerGoodLost .s0s3 r)) ?_
  split
  · exact (v.onPlant_mirrors _ (fun p => (p.notify .resume).setIdleSleep false)
      fun i => by simp only [v.notify, v.setIdleSleep]).same _
  · exact v.fail_tells _ m .powerGoodLost (by simp) .s0s3

theorem watchAp_tells : v.Tells [.powerGoodLost] m (fun r => outcome (m.watchAp r)) r := by
  cases forcing : m.forcingShutdown with
  | true =>
    simp only [Sequencer.watchAp, forcing, ↓reduceIte]
    exact (Mirrors.rest ()).same _
  | false =>
    simp only [Sequencer.watchAp, forcing, Bool.false_eq_true, ↓reduceIte]
    refine (v.waitComposite_mirrors r m m.timings.apDebounce).tells (g := fun good => fun r =>
      outcome (if good then (.s0, m, r) else m.fail .powerGoodLost .s0s3 r)) ?_
    split
    · exact (Mirrors.rest ()).same _
    · exact v.fail_tells _ m .powerGoodLost (by simp) .s0s3

theorem suspend_tells : v.Tells [.powerButton] m (fun r => outcome (m.suspend r)) r := by
  have held := v.onPlant_mirrors r (fun p => (p.notify .suspend).setApReset true)
    fun i => by simp only [v.notify, v.setApReset]
  have lowered := (held.bind (g := fun _ => fun r => ((), m.lowerUpper r))
    (v.lowerUpper_mirrors _ m)).bind
      (g := fun _ => fun r => ((), Sequencer.onPlant r (·.setIdleSleep true)))
      (v.onPlant_mirrors _ (·.setIdleSleep true) fun i => v.setIdleSleep i _ true)
  cases button : m.buttonHeld with
  | true =>
    simp only [Sequencer.suspend, button, ↓reduceIte]
    exact lowered.tells (g := fun _ => fun r => outcome (m.fail .powerButton .s3 r))
      (v.fail_tells _ m .powerButton (by simp) .s3)
  | false =>
    simp only [Sequencer.suspend, button, Bool.false_eq_true, ↓reduceIte]
    exact lowered.same _

theorem lowerPrimary_tells : v.Tells [] m (fun r => outcome (m.lowerPrimary r)) r :=
  ((v.onPlant_mirrors r (·.notify .shutdown) fun i => v.notify i r.plant .shutdown).bind
    (g := fun _ => fun r => r.sequenceOff m.plan.primary) (v.sequenceOff_mirrors _ _)).same _

theorem next_tells : v.Tells (Sequencer.grounds m.state) m (fun r => outcome (m.next r)) r := by
  cases hs : m.state <;> simp only [Sequencer.next, hs]
  case g3 =>
    split
    · exact (Mirrors.rest ()).spared _ _ rfl id
    · exact (Mirrors.rest ()).same _
  case g3s5 => exact (Mirrors.rest ()).spared _ _ rfl (by simp)
  case s5 | s5g3 => exact (Mirrors.rest ()).same _
  case s5s3 => exact v.raisePrimary_tells r m
  case s3 => exact v.raiseUpper_tells r m
  case s3s0 => exact v.awaitAp_tells r m
  case s0 => exact v.watchAp_tells r m
  case s0s3 => exact v.suspend_tells r m
  case s3s5 => exact v.lowerPrimary_tells r m

theorem handle_tells :
    v.Tells (Sequencer.grounds m.state) m (fun r => (((), (m.handle r).1), (m.handle r).2)) r := by
  refine (v.next_tells r m).bind (g := fun done => fun r =>
    let handled := if done.1 = m.state then (done.2, r)
      else
        ({ done.2 with state := done.1 },
          r.record (.powerTransition done.1) (.transition m.state done.1))
    (((), handled.1), handled.2)) ?_ ?_ ?_
  · dsimp only
    split
    · exact .plain fun _ => rfl
    · exact (v.record_mirrors (outcome (m.next r)).2 (.powerTransition (outcome (m.next r)).1.1)
        (.transition m.state (outcome (m.next r)).1.1) rfl).answer
          ((), { (outcome (m.next r)).1.2 with state := (outcome (m.next r)).1.1 })
  · dsimp only
    split <;> rfl
  · dsimp only
    split <;> rfl

theorem demote_mirrors (rail : RailId) : v.Mirrors (fun r => ((), r.demote rail)) r :=
  ((((v.setState_mirrors r rail .fault).bind (g := fun _ => fun r => r.voltage rail)
    (v.voltage_mirrors _ rail)).bind
      (g := fun sample => fun r => ((), r.record (.supplyFault rail) (.rail .fault sample)))
      (v.record_mirrors _ (.supplyFault rail) _ rfl)).bind
        (g := fun _ => fun r => r.control rail false) (v.control_mirrors _ rail false)).answer ()

theorem demoteFaulted_mirrors (rails : List RailId) :
    v.Mirrors (fun r => Rig.demoteFaulted rails r) r := by
  induction rails generalizing r with
  | nil => exact .rest _
  | cons rail rest ih =>
    have entry : v.Mirrors (fun r => (r.rails.state? rail, r)) r := .plain fun _ => rfl
    refine entry.bind (g := fun entry => fun r =>
      if entry = some .on then
        let live := r.status rail
        if live.1 = .fault then
          let others := Rig.demoteFaulted rest (live.2.demote rail)
          (rail :: others.1, others.2)
        else Rig.demoteFaulted rest live.2
      else Rig.demoteFaulted rest r) ?_
    split
    · refine (v.status_mirrors r rail).bind (g := fun live => fun r =>
        if live = .fault then
          let others := Rig.demoteFaulted rest (r.demote rail)
          (rail :: others.1, others.2)
        else Rig.demoteFaulted rest r) ?_
      split
      · have others := (v.demote_mirrors (r.status rail).2 rail).bind
          (g := fun _ => fun r => Rig.demoteFaulted rest r) (ih _)
        exact others.bind (g := fun found => fun r => (rail :: found, r)) (.rest _)
      · exact ih _
    · exact ih r

theorem runFaultCheck_mirrors : v.Mirrors (fun r => r.runFaultCheck) r := by
  have asked : v.Mirrors (fun r =>
      (r.rails.rails, { r with rails := { r.rails with faultCheckPending := false } })) r :=
    .plain fun _ => rfl
  exact asked.bind (g := fun rails => fun r => Rig.demoteFaulted rails r)
    (v.demoteFaulted_mirrors _ _)

theorem reset_tells (reason : ResetReason) :
    v.Tells [] m (fun r => (((), (m.reset reason r.plant).2.1),
      { r with plant := (m.reset reason r.plant).2.2 })) r := by
  have pulsed : v.Mirrors (fun r => ((), Sequencer.onPlant r fun p =>
      (((p.note (.chipsetReset reason)).setApReset true).sleep m.timings.resetPulse).setApReset
        false)) r :=
    (v.note_mirrors r (.chipsetReset reason) rfl).bind (g := fun _ => fun r =>
      ((), Sequencer.onPlant r fun p =>
        ((p.setApReset true).sleep m.timings.resetPulse).setApReset false))
      (v.onPlant_mirrors _ (fun p => ((p.setApReset true).sleep m.timings.resetPulse).setApReset false)
        fun i => by simp only [v.setApReset, v.sleep])
  cases hs : m.state <;> simp only [Sequencer.reset, hs]
  case s0 | s3s0 => exact pulsed.spared _ _ rfl id
  all_goals exact (Mirrors.rest ()).same _

theorem serviceFaults_tells : v.Tells [.supplyFault] m (fun r =>
    (((), (PowerTrain.mk m r).serviceFaults.sequencer), (PowerTrain.mk m r).serviceFaults.rig)) r := by
  have pending : v.Mirrors (fun r => (r.rails.faultCheckPending, r)) r := .plain fun _ => rfl
  refine pending.tells (g := fun pending => fun r =>
    let serviced := if pending then
        let checked := r.runFaultCheck
        if checked.1.isEmpty then ⟨m, checked.2⟩
        else (PowerTrain.mk m checked.2).forceShutdown .supplyFault checked.2.plant.now
      else ⟨m, r⟩
    (((), serviced.sequencer), serviced.rig)) ?_
  split
  · refine (v.runFaultCheck_mirrors r).tells (g := fun found => fun r =>
      let serviced := if found.isEmpty then ⟨m, r⟩
        else (PowerTrain.mk m r).forceShutdown .supplyFault r.plant.now
      (((), serviced.sequencer), serviced.rig)) ?_
    split
    · exact (Mirrors.rest ()).same _
    · have now : v.Mirrors (fun r => (r.plant.now, r)) r.runFaultCheck.2 :=
        .plain fun i => by simp only [rig, v.now]
      exact now.tells (g := fun time => fun r =>
        (((), (m.forceShutdown .supplyFault time r.plant.journal).1),
          { r with plant := { r.plant with
              journal := (m.forceShutdown .supplyFault time r.plant.journal).2 } }))
        (v.force_tells _ m .supplyFault (by simp) _ ())
  · exact (Mirrors.rest ()).same _

end View

namespace PowerTrain

variable {σ τ ι : Type} [Board σ] [Board τ]

def grounds (t : PowerTrain σ) : Request σ → List ShutdownReason
  | .handle => Sequencer.grounds t.state
  | .serviceFaults => [.supplyFault]
  | .forceShutdown reason _ => [reason]
  | _ => []

def Request.map (f : Plant σ → Plant τ) : Request σ → Request τ
  | .handle => .handle
  | .serviceFaults => .serviceFaults
  | .forceShutdown reason time => .forceShutdown reason time
  | .exitHardOff => .exitHardOff
  | .setButtonHeld held => .setButtonHeld held
  | .reset reason => .reset reason
  | .requestFaultCheck => .requestFaultCheck
  | .outside plant => .outside (f plant)

def seen (v : View σ τ ι) (i : ι) (t : PowerTrain σ) : PowerTrain τ := ⟨t.sequencer, v.rig i t.rig⟩

def ofAnswer {σ : Type} (done : (Unit × Sequencer) × Rig σ) : PowerTrain σ := ⟨done.1.2, done.2⟩

/-- A request does to what is seen of a train what it does to the train, and enters forced shutdowns
as `Latches` has it. -/
theorem apply_tells (v : View σ τ ι) (t : PowerTrain σ) (q : Request σ) :
    ∃ notes, Latches (t.grounds q) t.sequencer (t.apply q).sequencer (forcedBy notes) ∧
      ∀ i, (t.seen v i).apply (q.map (v.see i)) = (t.apply q).seen v (v.enters i notes) := by
  cases q with
  | handle =>
    obtain ⟨notes, latches, kept⟩ := v.handle_tells t.rig t.sequencer
    exact ⟨notes, latches, fun i => congrArg ofAnswer (kept i)⟩
  | serviceFaults =>
    obtain ⟨notes, latches, kept⟩ := v.serviceFaults_tells t.rig t.sequencer
    exact ⟨notes, latches, fun i => congrArg ofAnswer (kept i)⟩
  | forceShutdown reason time =>
    obtain ⟨notes, latches, kept⟩ := v.force_tells t.rig t.sequencer reason
      (List.mem_singleton.2 rfl) time ()
    exact ⟨notes, latches, fun i => congrArg ofAnswer (kept i)⟩
  | reset reason =>
    obtain ⟨notes, latches, kept⟩ := v.reset_tells t.rig t.sequencer reason
    exact ⟨notes, latches, fun i => congrArg ofAnswer (kept i)⟩
  | exitHardOff =>
    have reason : t.sequencer.exitHardOff.2.lastShutdown = t.sequencer.lastShutdown := by
      unfold Sequencer.exitHardOff
      split <;> rfl
    exact ⟨[], .spared reason fun set => t.sequencer.exitHardOff_forcing ▸ set, fun _ => rfl⟩
  | setButtonHeld _ | requestFaultCheck | outside _ => exact ⟨[], .spared rfl id, fun _ => rfl⟩

end PowerTrain

end BoardWarden
