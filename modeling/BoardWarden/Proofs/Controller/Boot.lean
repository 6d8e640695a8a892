import BoardWarden.Proofs.Controller.Descent
import BoardWarden.Proofs.Rail.Readings

set_option autoImplicit false

namespace BoardWarden

variable {σ : Type} [Board σ]

namespace Sequencer

variable (placid : Placid σ) (rails : RailBank)

include placid

theorem allGroupsOn_keeps (groups : List (List Step)) (p : Plant σ) :
    Agree p.board (allGroupsOn rails groups p).2.board := by
  induction groups generalizing p with
  | nil => exact .refl _
  | cons group rest ih =>
    have looked := RailBank.allOn_keeps placid rails group p
    simp only [allGroupsOn]
    split
    · exact looked.trans (ih _)
    · exact looked

theorem allGroupsOn_iff (groups : List (List Step)) (p : Plant σ) :
    (allGroupsOn rails groups p).1 = true ↔
      ∀ rail ∈ groups.flatMap railsOf, (rails.status rail p).1 = .on := by
  induction groups generalizing p with
  | nil => simp [allGroupsOn]
  | cons group rest ih =>
    have looked := RailBank.allOn_keeps placid rails group p
    have first := RailBank.allOn_iff placid rails group p
    simp only [allGroupsOn, List.flatMap_cons, List.forall_mem_append]
    split
    · rename_i live
      rw [ih]
      refine ⟨fun others => ⟨first.1 live, fun rail hr => ?_⟩, fun all rail hr => ?_⟩
      · exact (RailBank.status_agree placid rails rail looked).symm.trans (others rail hr)
      · exact (RailBank.status_agree placid rails rail looked).trans (all.2 rail hr)
    · rename_i dead
      exact ⟨fun never => (by cases never), fun all => absurd (first.2 all.1) dead⟩

omit placid in
def ApRuns (m : Sequencer) (p : Plant σ) : Prop :=
  ∀ line, m.plan.apAlive = some line → (p.readLine line).1 = .ok true

theorem compositeGood_keeps (m : Sequencer) (p : Plant σ) :
    Agree p.board (m.compositeGood rails p).2.board := by
  have looked := allGroupsOn_keeps placid rails (m.plan.primary :: m.plan.upperGroups) p
  simp only [compositeGood]
  split
  · split
    · exact looked
    · rename_i line _
      exact looked.trans (placid (.readLine line) _ rfl)
  · exact looked

theorem compositeGood_iff (m : Sequencer) (p : Plant σ) :
    (m.compositeGood rails p).1 = true ↔
      (∀ rail ∈ m.plan.rails, (rails.status rail p).1 = .on) ∧ m.ApRuns p := by
  let groups := m.plan.primary :: m.plan.upperGroups
  have looked := allGroupsOn_keeps placid rails groups p
  have live : (allGroupsOn rails groups p).1 = true ↔
      ∀ rail ∈ m.plan.rails, (rails.status rail p).1 = .on :=
    allGroupsOn_iff placid rails groups p
  simp only [compositeGood, ApRuns]
  split
  · rename_i on
    refine Iff.trans ?_ (and_iff_right (live.1 on)).symm
    cases alive : m.plan.apAlive with
    | none => simp
    | some line =>
      have level := looked.line line
      change ((allGroupsOn rails groups p).2.readLine line).1 = (p.readLine line).1 at level
      simp only [Option.some.injEq, forall_eq', groups] at level ⊢
      rw [level]
      cases (p.readLine line).1 <;> simp
  · rename_i dead
    exact ⟨fun never => (by cases never), fun all => absurd (live.2 all.1) dead⟩

end Sequencer

theorem Bench.placid : Placid Bench := by
  intro call b passive
  cases call with
  | sleep | driveLine => cases passive
  | _ => exact ⟨fun _ => rfl, fun _ => rfl⟩

namespace Controller

open Settings (Store)

def Live (c : Controller σ) (rail : RailId) : Prop :=
  (c.rig.rails.status rail c.plant).1 = .on

theorem setFans_keeps (placid : Placid σ) (on : Bool) (fans : List FanId) (b : FanBank) (p : Plant σ) :
    Agree p.board (setFans on fans b p).2.board := by
  induction fans generalizing b p with
  | nil => exact .refl p.board
  | cons fan rest ih =>
    have first : Agree p.board (b.setEnabled fan on p).2.board := by
      simp only [FanBank.setEnabled]
      split
      · exact .refl _
      · split
        · exact placid (.setOutput fan true) p.board rfl
        · exact placid (.setDuty fan 0) p.board rfl
    exact first.trans (ih _ _)

theorem chipsetInit_keeps (placid : Placid σ) (m : Sequencer) (rails : RailBank)
    (reset : ResetFlags) (autoboot : Bool) (p : Plant σ) :
    Agree p.board (m.chipsetInit rails reset autoboot p).2.board := by
  have looked := Sequencer.compositeGood_keeps placid rails { m with state := .g3 } p
  simp only [Sequencer.chipsetInit]
  split
  · split
    · exact looked.trans (placid (.setIdleSleep false) _ rfl)
    · exact looked
  · split <;> exact .refl _

theorem chipsetInit_s0 (placid : Placid σ) (m : Sequencer) (rails : RailBank)
    (reset : ResetFlags) (autoboot : Bool) (p : Plant σ) :
    (m.chipsetInit rails reset autoboot p).1.state = .s0 ↔
      reset.jumped = true ∧ (∀ rail ∈ m.plan.rails, (rails.status rail p).1 = .on) ∧
        m.ApRuns p := by
  have good : (Sequencer.compositeGood { m with state := .g3 } rails p).1 = true ↔
      (∀ rail ∈ m.plan.rails, (rails.status rail p).1 = .on) ∧ m.ApRuns p :=
    Sequencer.compositeGood_iff placid rails { m with state := .g3 } p
  simp only [Sequencer.chipsetInit]
  split
  · rename_i jumped
    split
    · rename_i up
      exact ⟨fun _ => ⟨jumped, good.1 up⟩, fun _ => rfl⟩
    · rename_i down
      exact ⟨fun never => (by cases never), fun runs => absurd (good.2 runs.2) down⟩
  · rename_i cold
    refine ⟨fun never => ?_, fun runs => absurd runs.1 cold⟩
    split at never <;> cases never

/-- A start drives no line, and ends in S0 exactly after a jump to a board that runs. -/
theorem init_boots (placid : Placid σ) (c : Controller σ) (store : Store) (reset : ResetFlags) :
    Agree c.board (c.init store reset).board ∧
      (c.init store reset).rig.rails.table = c.rig.rails.table ∧
      ((c.init store reset).powerState = .s0 ↔ reset.jumped = true ∧
        (∀ rail ∈ (c.init store reset).sequencer.plan.rails, c.Live rail) ∧
        (c.init store reset).sequencer.ApRuns c.plant) := by
  let adopted : Controller σ := { c with rig := c.rig.adoptLive }
  let loaded := adopted.loadSettings store c.now
  obtain ⟨_, rails, board, _⟩ := adopted.loadSettings_fields store c.now
  obtain ⟨looked, table⟩ := c.rig.adoptLive_keeps placid
  have agree : Agree c.board loaded.board := by
    rw [board]
    exact looked
  -- The plan is the one that the store left, and it is looked at on the board as it was found.
  have same : loaded.rig.rails.table = c.rig.rails.table := (congrArg RailBank.table rails).trans table
  let started := loaded.sequencer.chipsetInit loaded.rig.rails reset loaded.flags.autoboot loaded.plant
  have kept : Agree c.board started.2.board :=
    agree.trans (chipsetInit_keeps placid _ _ reset _ loaded.plant)
  have plan : started.1.plan = loaded.sequencer.plan :=
    (loaded.sequencer.chipsetInit_fields _ reset _ loaded.plant).1
  have live : ∀ rail, (loaded.rig.rails.status rail loaded.plant).1 = .on ↔ c.Live rail := by
    intro rail
    rw [Live, RailBank.status_congr same]
    rw [← RailBank.status_agree placid c.rig.rails rail (p := c.plant) (q := loaded.plant) agree]
  have runs : loaded.sequencer.ApRuns loaded.plant ↔ started.1.ApRuns c.plant := by
    have level : ∀ line, (loaded.plant.readLine line).1 = (c.plant.readLine line).1 := agree.line
    simp only [Sequencer.ApRuns, plan, level]
  have s0 := chipsetInit_s0 placid loaded.sequencer loaded.rig.rails reset loaded.flags.autoboot
    loaded.plant
  let ready : Controller σ := { loaded.withPlant started.2 with sequencer := started.1 }
  have found : ready.powerState = .s0 ↔ reset.jumped = true ∧
      (∀ rail ∈ ready.sequencer.plan.rails, c.Live rail) ∧ ready.sequencer.ApRuns c.plant := by
    change started.1.state = .s0 ↔ _
    rw [s0, runs]
    simp only [live]
    change _ ↔ _ ∧ (∀ rail ∈ started.1.plan.rails, _) ∧ _
    rw [plan]
  have ended : c.init store reset = if ready.powerState = .s0 then ready.enableFans true else ready := rfl
  rw [ended]
  split
  · exact ⟨kept.trans (setFans_keeps placid true _ _ _), same, found⟩
  · exact ⟨kept, same, found⟩

/-- No rail is orphaned: all of the plan are live in S0, or none is in G3. -/
def Settled (c : Controller σ) : Prop :=
  (c.powerState = .s0 ∧ ∀ rail ∈ c.sequencer.plan.rails, c.Live rail) ∨
    (c.powerState = .g3 ∧ ∀ rail ∈ c.sequencer.plan.rails, ¬ c.Live rail)

/-- A start leaves every rail as live as it found it, and S0 has every rail of the plan live. It
orphans no rail exactly if none was live, or if the controller was jumped to and the AP runs on all
of them. -/
theorem init_settles (placid : Placid σ) (c : Controller σ) (store : Store) (reset : ResetFlags) :
    let started := c.init store reset
    (∀ rail, started.Live rail ↔ c.Live rail) ∧
      (started.powerState = .s0 → ∀ rail ∈ started.sequencer.plan.rails, started.Live rail) ∧
      (started.Settled ↔
        (∀ rail ∈ started.sequencer.plan.rails, ¬ c.Live rail) ∨
          (reset.jumped = true ∧ (∀ rail ∈ started.sequencer.plan.rails, c.Live rail) ∧
            started.sequencer.ApRuns c.plant)) := by
  intro started
  obtain ⟨agree, table, s0⟩ := c.init_boots placid store reset
  have ends : started.powerState = .g3 ∨ started.powerState = .s0 := by
    simpa using c.init_state store reset
  have live : ∀ rail, started.Live rail ↔ c.Live rail := by
    intro rail
    rw [Live, RailBank.status_congr table,
      RailBank.status_agree placid c.rig.rails rail (p := c.plant) (q := started.plant) agree]
    exact Iff.rfl
  have up : started.powerState = .s0 → ∀ rail ∈ started.sequencer.plan.rails, started.Live rail :=
    fun state rail hr => (live rail).2 ((s0.1 state).2.1 rail hr)
  refine ⟨live, up, ?_⟩
  simp only [Settled]
  constructor
  · rintro (⟨state, _⟩ | ⟨_, dark⟩)
    · exact .inr (s0.1 state)
    · exact .inl fun rail hr on => dark rail hr ((live rail).2 on)
  · rintro (dark | jumped)
    · rcases ends with state | state
      · exact .inr ⟨state, fun rail hr on => dark rail hr ((live rail).1 on)⟩
      · exact .inl ⟨state, up state⟩
    · exact .inl ⟨s0.2 jumped, up (s0.2 jumped)⟩

def railsUp (stuckLow : List Line) : Bench :=
  (Carrier.bench.change { high := [⟨0⟩, ⟨1⟩, ⟨3⟩, ⟨4⟩, ⟨6⟩, ⟨8⟩], stuckLow }).change
    { advance := 30000 }

def upCarrier (stuckLow : List Line) : Controller Bench :=
  fresh Carrier.layout Carrier.fanCount ControllerConfig.builtIn (railsUp stuckLow)

def liveRails (c : Controller Bench) : List RailId :=
  c.sequencer.plan.rails.filter fun rail => decide ((c.rig.rails.status rail c.plant).1 = .on)

theorem live_of_mem {c : Controller Bench} {rail : RailId} (h : rail ∈ c.liveRails) :
    c.Live rail := by
  have seen := (List.mem_filter.1 h).2
  rwa [decide_eq_true_eq] at seen

def jump : ResetFlags := ⟨true, false, false, false⟩

theorem carrier_starts_up :
    ((upCarrier []).init Store.empty jump).Settled ∧
      ((upCarrier []).init Store.empty jump).powerState = .s0 := by
  have up : ((upCarrier []).init Store.empty jump).powerState = .s0 := by decide +kernel
  have plan : ((upCarrier []).init Store.empty jump).sequencer.plan = Carrier.plan := by
    decide +kernel
  have lit : (upCarrier []).liveRails = Carrier.plan.rails := by decide +kernel
  have settled := (init_settles Bench.placid (upCarrier []) Store.empty jump).2.2
  generalize (upCarrier []).init Store.empty jump = started at up plan settled ⊢
  have live : ∀ rail ∈ started.sequencer.plan.rails, (upCarrier []).Live rail := by
    intro rail hr
    rw [plan, ← lit] at hr
    exact live_of_mem hr
  have runs : started.sequencer.ApRuns (upCarrier []).plant := by
    intro line alive
    rw [plan] at alive
    cases alive
    have high : (upCarrier []).board.read Carrier.apAlive = .ok true := by decide +kernel
    exact high
  exact ⟨settled.2 (.inr ⟨rfl, live, runs⟩), up⟩

/-- A jump to the carrier while its AP does not show that it runs: the controller comes to rest in
G3 with every rail of the plan live. -/
theorem carrier_orphans_rails :
    let started := (upCarrier [Carrier.apAlive]).init Store.empty jump
    started.powerState = .g3 ∧ started.isSteady = true ∧
      (∀ rail ∈ started.sequencer.plan.rails, started.Live rail) ∧ ¬ started.Settled := by
  intro started
  have off : started.powerState = .g3 := by decide +kernel
  have rests : started.isSteady = true := by decide +kernel
  have lit : started.liveRails = started.sequencer.plan.rails := by decide +kernel
  have vin : ⟨0⟩ ∈ started.sequencer.plan.rails := by decide +kernel
  have live : ∀ rail ∈ started.sequencer.plan.rails, started.Live rail := by
    intro rail hr
    rw [← lit] at hr
    exact live_of_mem hr
  refine ⟨off, rests, live, ?_⟩
  rintro (⟨up, _⟩ | ⟨_, dark⟩)
  · rw [off] at up
    cases up
  · exact dark ⟨0⟩ vin (live ⟨0⟩ vin)

end Controller

end BoardWarden
