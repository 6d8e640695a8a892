import BoardWarden.Proofs.Bench.EnableLines
import BoardWarden.Proofs.Power.Views

set_option autoImplicit false

namespace BoardWarden

namespace Sequencer

variable {σ : Type} [Board σ] {bank : RailBank} {good : σ → Prop} {up : List RailId}
  {r : Rig (Watched σ)}

theorem raiseGroups_guarded (obeys : bank.Obedient good) (apart : bank.Distinct) (timeout : Span)
    (groups : List (List Step)) (h : r.Guarded bank good up) (listed : groups.flatMap railsOf ⊆ up) :
    (raiseGroups timeout groups r).2.Guarded bank good up := by
  induction groups generalizing r with
  | nil => exact h
  | cons group rest ih =>
    obtain ⟨first, others⟩ := List.append_subset.1 listed
    have raised := h.sequenceOnWithin obeys apart group timeout first
    simp only [raiseGroups]
    split
    · exact raised
    · exact ih raised others

theorem lowerGroups_guarded (obeys : bank.Obedient good) (apart : bank.Distinct)
    (groups : List (List Step)) (ordered : bank.Ordered (up ++ groups.reverse.flatMap railsOf))
    (h : r.Guarded bank good (up ++ groups.reverse.flatMap railsOf)) :
    (lowerGroups groups r).Guarded bank good up := by
  induction groups generalizing r with
  | nil => simpa [lowerGroups] using h
  | cons group rest ih =>
    have split : up ++ (group :: rest).reverse.flatMap railsOf =
        (up ++ rest.reverse.flatMap railsOf) ++ railsOf group := by simp
    -- The first group to be lowered stands last in the list.
    rw [split] at ordered h
    exact ih ordered.init (h.sequenceOff obeys apart group ordered)

theorem lowerUpper_guarded (obeys : bank.Obedient good) (apart : bank.Distinct) (m : Sequencer)
    (ordered : bank.Ordered m.plan.rails) (h : r.Guarded bank good m.plan.rails) :
    (m.lowerUpper r).Guarded bank good (railsOf m.plan.primary) := by
  have same : m.plan.rails =
      railsOf m.plan.primary ++ m.plan.upperGroups.reverse.reverse.flatMap railsOf := by
    rw [List.reverse_reverse]
    rfl
  rw [same] at ordered h
  exact lowerGroups_guarded obeys apart m.plan.upperGroups.reverse ordered h

def raised (plan : PowerPlan) : PowerState → List RailId
  | .g3 | .g3s5 | .s5 | .s5s3 | .s5g3 => []
  | .s3 | .s3s5 => railsOf plan.primary
  | .s3s0 | .s0 | .s0s3 => plan.rails

theorem primary_subset (plan : PowerPlan) : railsOf plan.primary ⊆ plan.rails :=
  List.subset_append_left _ _

theorem upper_subset (plan : PowerPlan) : plan.upperRails ⊆ plan.rails :=
  List.subset_append_right _ _

theorem raisePrimary_guarded (obeys : bank.Obedient good) (apart : bank.Distinct) (m : Sequencer)
    (h : r.Guarded bank good []) :
    (m.raisePrimary r).2.2.Guarded bank good (raised m.plan (m.raisePrimary r).1) := by
  have held : (onPlant r (·.setApReset true)).Guarded bank good (railsOf m.plan.primary) :=
    (h.mono (List.nil_subset _)).look obeys rfl (.one _ (.setApReset true) rfl)
  have up := held.sequenceOnWithin obeys apart m.plan.primary r.rails.timing.stepTimeout
    (List.Subset.refl _)
  simp only [raisePrimary, Rig.sequenceOn]
  split
  · exact Rig.Guarded.mono ⟨up.table, up.board⟩ (primary_subset m.plan)
  · exact up.look obeys rfl ((Quiet.one _ (.notify .preInit) rfl).next (.notify .startup) rfl)

theorem raiseUpper_guarded (obeys : bank.Obedient good) (apart : bank.Distinct) (m : Sequencer)
    (ordered : bank.Ordered m.plan.rails) (h : r.Guarded bank good (railsOf m.plan.primary)) :
    (m.raiseUpper r).2.2.Guarded bank good (raised m.plan (m.raiseUpper r).1) := by
  have looked : Rig.Guarded bank good (railsOf m.plan.primary)
      { r with plant := (r.rails.allOn m.plan.primary r.plant).2 } :=
    h.look obeys rfl (r.rails.allOn_quiet m.plan.primary r.plant)
  have up := raiseGroups_guarded obeys apart m.timings.s3Rail m.plan.upperGroups
    (looked.mono (primary_subset m.plan)) (upper_subset m.plan)
  simp only [raiseUpper]
  split
  · exact h
  · split
    · split
      · exact up.look obeys rfl (.one _ (.setApReset false) rfl)
      · exact lowerUpper_guarded obeys apart m ordered ⟨up.table, up.board⟩
    · exact ⟨looked.table, looked.board⟩

theorem awaitAp_guarded (obeys : bank.Obedient good) (m : Sequencer)
    (h : r.Guarded bank good m.plan.rails) :
    (m.awaitAp r).2.2.Guarded bank good (raised m.plan (m.awaitAp r).1) := by
  have waited : (m.waitComposite m.timings.apFirst r).2.Guarded bank good m.plan.rails :=
    h.look obeys rfl (m.waitComposite_quiet m.timings.apFirst r)
  simp only [awaitAp]
  split
  · exact waited.look obeys rfl
      ((Quiet.one _ (.notify .resume) rfl).next (.setIdleSleep false) rfl)
  · exact ⟨waited.table, waited.board⟩

theorem watchAp_guarded (obeys : bank.Obedient good) (m : Sequencer)
    (h : r.Guarded bank good m.plan.rails) :
    (m.watchAp r).2.2.Guarded bank good (raised m.plan (m.watchAp r).1) := by
  have waited : (m.waitComposite m.timings.apDebounce r).2.Guarded bank good m.plan.rails :=
    h.look obeys rfl (m.waitComposite_quiet m.timings.apDebounce r)
  simp only [watchAp]
  split
  · exact h
  · split
    · exact waited
    · exact ⟨waited.table, waited.board⟩

theorem suspend_guarded (obeys : bank.Obedient good) (apart : bank.Distinct) (m : Sequencer)
    (ordered : bank.Ordered m.plan.rails) (h : r.Guarded bank good m.plan.rails) :
    (m.suspend r).2.2.Guarded bank good (raised m.plan (m.suspend r).1) := by
  have held : (onPlant r fun p => (p.notify .suspend).setApReset true).Guarded bank good
      m.plan.rails :=
    h.look obeys rfl ((Quiet.one _ (.notify .suspend) rfl).next (.setApReset true) rfl)
  have down := lowerUpper_guarded obeys apart m ordered held
  have told : Rig.Guarded bank good (railsOf m.plan.primary) (onPlant (m.lowerUpper
      (onPlant r fun p => (p.notify .suspend).setApReset true)) (·.setIdleSleep true)) :=
    down.look obeys rfl (.one _ (.setIdleSleep true) rfl)
  simp only [suspend]
  split
  · exact ⟨told.table, told.board⟩
  · exact told

theorem lowerPrimary_guarded (obeys : bank.Obedient good) (apart : bank.Distinct) (m : Sequencer)
    (ordered : bank.Ordered m.plan.rails) (h : r.Guarded bank good (railsOf m.plan.primary)) :
    (m.lowerPrimary r).2.2.Guarded bank good [] := by
  have told : (onPlant r (·.notify .shutdown)).Guarded bank good (railsOf m.plan.primary) :=
    h.look obeys rfl (.one _ (.notify .shutdown) rfl)
  have bottom : bank.Ordered ([] ++ railsOf m.plan.primary) := ordered.init
  exact Rig.Guarded.sequenceOff obeys apart m.plan.primary bottom told

theorem next_guarded (obeys : bank.Obedient good) (apart : bank.Distinct) (m : Sequencer)
    (ordered : bank.Ordered m.plan.rails) (h : r.Guarded bank good (raised m.plan m.state)) :
    (m.next r).2.2.Guarded bank good (raised m.plan (m.next r).1) := by
  cases hs : m.state <;> simp only [next, hs] <;> rw [hs] at h
  case g3 => split <;> exact h
  case g3s5 | s5g3 => exact h
  case s5 => split <;> exact h
  case s5s3 => exact raisePrimary_guarded obeys apart m h
  case s3 => exact raiseUpper_guarded obeys apart m ordered h
  case s3s0 => exact awaitAp_guarded obeys m h
  case s0 => exact watchAp_guarded obeys m h
  case s0s3 => exact suspend_guarded obeys apart m ordered h
  case s3s5 => exact lowerPrimary_guarded obeys apart m ordered h

end Sequencer

namespace PowerTrain

variable {σ : Type} [Board σ]

def tape {σ : Type} (t : PowerTrain (Watched σ)) : List (Call × σ) := t.rig.plant.board.tape

def Request.toSequencer {σ : Type} : Request σ → Bool
  | .serviceFaults | .requestFaultCheck | .outside _ => false
  | _ => true

structure Guarded (bank : RailBank) (good : σ → Prop) (plan : PowerPlan)
    (t : PowerTrain (Watched σ)) : Prop where
  plan_eq : t.sequencer.plan = plan
  rig : t.rig.Guarded bank good (Sequencer.raised plan t.state)

variable {bank : RailBank} {good : σ → Prop} {plan : PowerPlan} {t : PowerTrain (Watched σ)}

theorem Guarded.serves (obeys : bank.Obedient good) {t' : PowerTrain (Watched σ)}
    (h : t.Guarded bank good plan) (serves : Sequencer.Serves t.sequencer t'.sequencer)
    (table : t'.rig.rails.table = t.rig.rails.table)
    (quiet : Quiet t.rig.plant.board t'.rig.plant.board) : t'.Guarded bank good plan := by
  refine ⟨serves.plan.trans h.plan_eq, ?_⟩
  rw [state, serves.state]
  exact h.rig.look obeys table quiet

theorem Guarded.apply (obeys : bank.Obedient good) (apart : bank.Distinct)
    (ordered : bank.Ordered plan.rails) (h : t.Guarded bank good plan)
    (q : Request (Watched σ)) (own : q.toSequencer = true) :
    (t.apply q).Guarded bank good plan := by
  cases q with
  | handle =>
    obtain ⟨rfl, rig⟩ := h
    have worked := Sequencer.next_guarded obeys apart t.sequencer ordered rig
    refine ⟨t.sequencer.handle_plan t.rig, ?_⟩
    simp only [PowerTrain.apply, state, Sequencer.handle_state]
    refine worked.look obeys (by rw [Sequencer.handle_rails]) ?_
    simp only [Sequencer.handle]
    split <;> exact .none
  | forceShutdown reason time => exact h.serves obeys (Sequencer.forceShutdown_serves ..) rfl .none
  | exitHardOff => exact h.serves obeys t.sequencer.exitHardOff_serves rfl .none
  | setButtonHeld held => exact ⟨h.plan_eq, h.rig⟩
  | reset reason =>
    exact h.serves obeys (t.sequencer.reset_serves reason t.rig.plant) rfl
      (t.sequencer.reset_quiet reason t.rig.plant)
  | serviceFaults | requestFaultCheck | outside => cases own

theorem Guarded.run (obeys : bank.Obedient good) (apart : bank.Distinct)
    (ordered : bank.Ordered plan.rails) (h : t.Guarded bank good plan)
    (qs : List (Request (Watched σ))) (own : ∀ q ∈ qs, q.toSequencer = true) :
    (t.run qs).Guarded bank good plan := by
  induction qs generalizing t with
  | nil => exact h
  | cons q rest ih =>
    obtain ⟨first, others⟩ := List.forall_mem_cons.1 own
    exact ih (h.apply obeys apart ordered q first) others

theorem run_seen {τ : Type} [Board τ] (v : View σ τ Unit) (t : PowerTrain σ)
    (qs : List (Request σ)) :
    (t.run qs).seen v () = (t.seen v ()).run (qs.map (Request.map (v.see ()))) := by
  induction qs generalizing t with
  | nil => rfl
  | cons q rest ih =>
    obtain ⟨_, _, same⟩ := apply_tells v t q
    rw [run, ih, List.map_cons, run, same ()]

omit [Board σ] in
theorem Request.map_unwatch_watch (q : Request σ) :
    (q.map Plant.watch).map Plant.unwatch = q := by
  cases q <;> rfl

/-- The enable lines stay closed under the sequencer. Let no two rails of the table have the same
enable line, let the plan name every rail once and no child before its parent, let writes to enable
lines be read back, and let all rails be off at first. Then on every run of requests to the sequencer,
whatever the feedback says, every single write leaves each asserted rail with its parent asserted, and
a rail that is not a root is raised only right after a look that found its parent on. The tape on
which this is read changes nothing of the run. -/
theorem run_closed (table : List Rail) (timing : RailTiming) (plan : PowerPlan)
    (timings : PowerTimings) (plant : Plant σ) (good : σ → Prop)
    (obeys : (RailBank.ofTable table timing).Obedient good)
    (apart : (table.map fun row => row.enable.line).Nodup)
    (ordered : (RailBank.ofTable table timing).Ordered plan.rails) (fine : good plant.board)
    (off : ∀ row ∈ table, ¬ row.Asserted plant.board)
    (qs : List (Request σ)) (own : ∀ q ∈ qs, q.toSequencer = true) :
    let bank := RailBank.ofTable table timing
    let run := (fresh table timing plan timings plant).run qs
    let watched := (fresh table timing plan timings plant.watch).run (qs.map (Request.map Plant.watch))
    watched.seen (View.unwatch σ) () = run ∧
      bank.Closed run.rig.plant.board ∧
      ∀ later line level b earlier,
        watched.tape = later ++ (.driveLine line level, b) :: earlier →
        bank.Closed (Board.driveLine line level b).2 ∧
          ∀ rail row, bank.row? rail = some row → row.parent ≠ rail → row.enable.line = line →
            row.enable.level true = level →
            bank.FoundOn row.parent ⟨b, earlier⟩ ∧
              (RailBank.LooksOnly σ → ∀ j, (bank.status row.parent (⟨b, j⟩ : Plant σ)).1 = .on) := by
  intro bank run watched
  have dark : ∀ rail row, bank.row? rail = some row → ¬ row.Asserted plant.board :=
    fun rail row hrow => off row (List.mem_of_mem_take (RailBank.row?_mem hrow))
  have start : (fresh table timing plan timings plant.watch).Guarded bank good plan :=
    ⟨rfl, rfl, fine, fun rail row hrow on => absurd on (dark rail row hrow),
      fun rail row hrow _ on => absurd on (dark rail row hrow),
      fun later line level b earlier split => by
        cases later <;> cases split⟩
  have own' : ∀ q ∈ qs.map (Request.map Plant.watch), q.toSequencer = true := by
    intro _ hq
    obtain ⟨q, listed, rfl⟩ := List.mem_map.1 hq
    have first := own q listed
    cases q <;> first | rfl | cases first
  have guarded : watched.Guarded bank good plan :=
    start.run obeys (RailBank.ofTable_distinct table timing apart) ordered _ own'
  -- What is watched starts with an empty tape and gets no plant from outside, so the tape is whole.
  have seen : watched.seen (View.unwatch σ) () = run := by
    have back : (qs.map (Request.map Plant.watch)).map (Request.map Plant.unwatch) = qs := by
      rw [List.map_map]
      exact (List.map_congr_left fun q _ => q.map_unwatch_watch).trans (List.map_id qs)
    have same := run_seen (View.unwatch σ) (fresh table timing plan timings plant.watch)
      (qs.map (Request.map Plant.watch))
    change _ = PowerTrain.run _ ((qs.map (Request.map Plant.watch)).map (Request.map Plant.unwatch))
      at same
    rw [back] at same
    exact same
  refine ⟨seen, ?_, fun later line level b earlier split => ?_⟩
  · rw [← seen]
    exact guarded.rig.board.closed
  · obtain ⟨closed, found⟩ := guarded.rig.board.clean later line level b earlier split
    refine ⟨closed, fun rail row hrow child same up => ?_⟩
    have on := found rail row hrow child same up
    exact ⟨on, fun looks j => on.live looks j⟩

/-- The memory rail of the carrier never confirms its power. The second upper group fails in its
middle, and all that came up goes down again in reverse, closed at every write. -/
theorem carrier_stays_closed :
    let bank := RailBank.ofTable Carrier.rails RailTiming.builtIn
    let plant : Plant Bench := ⟨Carrier.bench.change { stuckLow := [⟨7⟩] }, Journal.fresh⟩
    let qs : List (Request Bench) := .exitHardOff :: List.replicate 7 .handle
    let watched := (fresh Carrier.rails RailTiming.builtIn Carrier.plan PowerTimings.builtIn
      plant.watch).run (qs.map (Request.map Plant.watch))
    watched.tape.reverse.filterMap (fun entry => entry.1.drives) =
        [(⟨0⟩, true), (⟨1⟩, true), (⟨3⟩, true), (⟨4⟩, true), (⟨6⟩, true), (⟨8⟩, false),
          (⟨6⟩, false), (⟨4⟩, false), (⟨3⟩, false), (⟨1⟩, false), (⟨0⟩, false)] ∧
      ∀ later line level b earlier,
        watched.tape = later ++ (.driveLine line level, b) :: earlier →
        bank.Closed (Board.driveLine line level b).2 ∧
          ∀ rail row, bank.row? rail = some row → row.parent ≠ rail → row.enable.line = line →
            row.enable.level true = level →
            (bank.status row.parent (⟨b, Journal.fresh⟩ : Plant Bench)).1 = .on := by
  intro bank plant qs watched
  have writes : watched.tape.reverse.filterMap (fun entry => entry.1.drives) =
      [(⟨0⟩, true), (⟨1⟩, true), (⟨3⟩, true), (⟨4⟩, true), (⟨6⟩, true), (⟨8⟩, false),
        (⟨6⟩, false), (⟨4⟩, false), (⟨3⟩, false), (⟨1⟩, false), (⟨0⟩, false)] := by
    decide +kernel
  have mapped : ∀ row ∈ Carrier.rails, row.enable.line.index < plant.board.lines.size := by
    decide +kernel
  have released : ∀ row ∈ Carrier.rails, row.enable.line ∉ plant.board.stuckLow := by
    decide +kernel
  have undriven : ∀ row ∈ Carrier.rails, ∀ follower ∈ plant.board.followers,
      follower.output ≠ row.enable.line := by
    decide +kernel
  have low : ∀ row ∈ Carrier.rails, plant.board.level row.enable.line ≠ row.enable.level true := by
    decide +kernel
  have wired : Bench.Wired Carrier.rails plant.board := fun row listed =>
    ⟨mapped row listed, ⟨released row listed, fun _ none => by cases none⟩,
      ⟨List.not_mem_nil, List.not_mem_nil⟩, undriven row listed⟩
  have off : ∀ row ∈ Carrier.rails, ¬ row.Asserted plant.board := by
    intro row listed on
    have read := (wired row listed).read
    exact low row listed (Except.ok.inj (read.symm.trans on))
  have closed := run_closed Carrier.rails RailTiming.builtIn Carrier.plan PowerTimings.builtIn plant
    (Bench.Wired Carrier.rails) (Bench.wired_obedient _ _) (by decide) (by decide) wired off qs
    (by decide)
  refine ⟨writes, fun later line level b earlier split => ?_⟩
  obtain ⟨shut, found⟩ := closed.2.2 later line level b earlier split
  refine ⟨shut, fun rail row hrow child same up => ?_⟩
  exact (found rail row hrow child same up).2 ⟨fun _ _ => rfl, fun _ _ => rfl⟩ Journal.fresh

end PowerTrain

end BoardWarden
