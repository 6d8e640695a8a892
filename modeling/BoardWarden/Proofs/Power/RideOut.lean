import BoardWarden.Proofs.Controller.Boot
import BoardWarden.Proofs.Rail.PowerOn

set_option autoImplicit false

namespace BoardWarden

variable {σ : Type} [Board σ]

section Looks

variable (looks : RailBank.LooksOnly σ)

include looks

theorem RailBank.allOn_plant (b : RailBank) (steps : List Step) (p : Plant σ) :
    (b.allOn steps p).2 = p := by
  induction steps with
  | nil => rfl
  | cons step rest ih =>
    simp only [allOn, b.status_plant looks]
    split
    · exact ih
    · rfl

theorem RailBank.allOn_live (b : RailBank) (steps : List Step) (p : Plant σ) :
    (b.allOn steps p).1 = true ↔ ∀ rail ∈ railsOf steps, (b.status rail p).1 = .on := by
  induction steps with
  | nil => simp [allOn]
  | cons step rest ih =>
    simp only [allOn, b.status_plant looks, railsOf_cons, List.forall_mem_cons]
    split
    · rename_i live
      rw [ih, and_iff_right live]
    · rename_i dead
      exact iff_of_false (fun never => by cases never) fun all => dead all.1

namespace Sequencer

theorem allGroupsOn_plant (rails : RailBank) (groups : List (List Step)) (p : Plant σ) :
    (allGroupsOn rails groups p).2 = p := by
  induction groups with
  | nil => rfl
  | cons group rest ih =>
    simp only [allGroupsOn, rails.allOn_plant looks]
    split
    · exact ih
    · rfl

theorem allGroupsOn_live (rails : RailBank) (groups : List (List Step)) (p : Plant σ) :
    (allGroupsOn rails groups p).1 = true ↔
      ∀ rail ∈ groups.flatMap railsOf, (rails.status rail p).1 = .on := by
  induction groups with
  | nil => simp [allGroupsOn]
  | cons group rest ih =>
    have first := rails.allOn_live looks group p
    simp only [allGroupsOn, rails.allOn_plant looks, List.flatMap_cons, List.forall_mem_append]
    split
    · rename_i live
      rw [ih, and_iff_right (first.1 live)]
    · rename_i dead
      exact iff_of_false (fun never => by cases never) fun all => dead (first.2 all.1)

theorem compositeGood_plant (m : Sequencer) (rails : RailBank) (p : Plant σ) :
    (m.compositeGood rails p).2 = p := by
  simp only [compositeGood, allGroupsOn_plant looks]
  split
  · split
    · rfl
    · exact congrArg (Plant.mk · p.journal) (looks.1 _ _)
  · rfl

theorem compositeGood_live (m : Sequencer) (rails : RailBank) (p : Plant σ) :
    (m.compositeGood rails p).1 = true ↔
      (∀ rail ∈ m.plan.rails, (rails.status rail p).1 = .on) ∧ m.ApRuns p := by
  have live : (allGroupsOn rails (m.plan.primary :: m.plan.upperGroups) p).1 = true ↔
      ∀ rail ∈ m.plan.rails, (rails.status rail p).1 = .on := allGroupsOn_live looks rails _ p
  simp only [compositeGood, allGroupsOn_plant looks, ApRuns]
  split
  · rename_i on
    rw [and_iff_right (live.1 on)]
    cases m.plan.apAlive with
    | none => simp
    | some line =>
      simp only [Option.some.injEq, forall_eq']
      cases (p.readLine line).1 <;> simp
  · rename_i dead
    exact iff_of_false (fun never => by cases never) fun all => dead (live.2 all.1)

end Sequencer

end Looks

theorem Plant.paused (poll : Span) (count : Nat) (p : Plant σ) :
    (fun p : Plant σ => p.sleep poll)^[count] p = p.polled poll count := by
  induction count generalizing p with
  | zero => rfl
  | succ count ih => exact ih (p.sleep poll)

namespace Sequencer

def GoodAt (m : Sequencer) (rails : RailBank) (start : Plant σ) (k : Nat) : Prop :=
  let p := start.polled m.timings.poll k
  (∀ rail ∈ m.plan.rails, (rails.status rail p).1 = .on) ∧ m.ApRuns p

/-- A step that waits for power good through the window: `last` is the first of the poll instants
that is not before its end. -/
structure RidesOut (m : Sequencer) (r : Rig σ) (window : Span) (last : Nat) : Prop where
  instants : ∀ k, (r.plant.polled m.timings.poll k).now.micros =
    min (r.plant.now.micros + k * m.timings.poll.micros) Instant.last
  early : ∀ k < last, (r.plant.polled m.timings.poll k).now.micros <
    (r.plant.now.after window).micros
  late : (r.plant.now.after window).micros ≤ (r.plant.polled m.timings.poll last).now.micros
  rails : (m.handle r).2.rails = r.rails
  up_iff : (m.handle r).1.state = .s0 ↔ ∃ k ≤ last, m.GoodAt r.rails r.plant k
  /-- The step ends at the first look that finds power good, at once if it is the first of all. -/
  holds : ∀ k ≤ last, m.GoodAt r.rails r.plant k → (∀ i < k, ¬ m.GoodAt r.rails r.plant i) →
    (m.handle r).1 = { m with state := .s0 } ∧
      (m.handle r).2.plant.now = (r.plant.polled m.timings.poll k).now ∧
      (k = 0 → (m.handle r).2.plant.now = r.plant.now)
  drops : (∀ k ≤ last, ¬ m.GoodAt r.rails r.plant k) →
    (m.handle r).1.state = .s0s3 ∧ (m.handle r).1.forcingShutdown = true ∧
      (m.forcingShutdown = false → (m.handle r).1.lastShutdown = some .powerGoodLost) ∧
      (m.handle r).2.plant.now = (r.plant.polled m.timings.poll last).now
  /-- The wait ends by its own test, however many turns it is given. -/
  ends : ∀ turns, last ≤ turns →
    m.awaitGood r.rails (r.plant.now.after window) turns r.plant =
      ((m.waitComposite window r).1, (m.waitComposite window r).2.plant)

section Wait

variable (clocked : Clocked σ) (looks : RailBank.LooksOnly σ)

include looks in
theorem compositeGood_at (m : Sequencer) (rails : RailBank) (start : Plant σ) (k : Nat) :
    (m.compositeGood rails (start.polled m.timings.poll k)).1 = true ↔ m.GoodAt rails start k :=
  m.compositeGood_live looks rails _

include looks in
theorem awaitGood_stops (m : Sequencer) (rails : RailBank) (deadline : Instant) (p : Plant σ)
    {last k : Nat} (stop : Stops (m.GoodAt rails p) last k)
    (early : ∀ i < last, (p.polled m.timings.poll i).now.micros < deadline.micros)
    (late : deadline.micros ≤ (p.polled m.timings.poll last).now.micros) (turns : Nat)
    (enough : last ≤ turns) :
    m.awaitGood rails deadline turns p = m.compositeGood rails (p.polled m.timings.poll k) := by
  have paused (i : Nat) := Plant.paused m.timings.poll i p
  rw [awaitGood_eq_poll, poll_stops _ _ _ stop turns enough, paused k]
  · exact fun i => m.compositeGood_plant looks rails _
  · intro i
    rw [paused i]
    exact m.compositeGood_at looks rails p i
  · intro i below
    rw [paused i]
    exact decide_eq_false (Nat.not_le.2 (early i below))
  · rw [paused last]
    exact decide_eq_true late

theorem handle_now (m : Sequencer) (r : Rig σ) :
    (m.handle r).2.plant.now = (m.next r).2.2.plant.now := by
  simp only [handle]
  split <;> rfl

include clocked looks

theorem ridesOut_of_next (m : Sequencer) (r : Rig σ) (window : Span) (up : Plant σ → Plant σ)
    (still : ∀ p, (up p).now = p.now) (fits : r.plant.now.micros ≤ Instant.last)
    (counts : 1 ≤ m.timings.poll.micros)
    (next : m.next r =
      if (m.waitComposite window r).1 then (.s0, m, onPlant (m.waitComposite window r).2 up)
      else m.fail .powerGoodLost .s0s3 (m.waitComposite window r).2) :
    ∃ last, m.RidesOut r window last := by
  have punctual := clocked.punctual looks
  obtain ⟨last, early, late, _, soonest⟩ :=
    r.plant.polled_reaches punctual m.timings.poll counts window fits
  obtain ⟨k, stop⟩ := Stops.exists_stop (m.GoodAt r.rails r.plant) last
  have ends := m.awaitGood_stops looks r.rails _ r.plant stop early late
  have waited : m.waitComposite window r =
      ((m.compositeGood r.rails (r.plant.polled m.timings.poll k)).1,
        ⟨r.plant.polled m.timings.poll k, r.rails⟩) := by
    simp only [waitComposite, ends _ soonest, m.compositeGood_plant looks]
  have good := m.compositeGood_at looks r.rails r.plant k
  rw [waited] at next
  refine ⟨last, fun k => r.plant.polled_micros punctual m.timings.poll k fits, early, late, ?_, ?_,
    fun j bound passed least => ?_, fun never => ?_, fun turns enough => ?_⟩
  · rw [handle_rails, next]
    split <;> rfl
  · rw [handle_state, next, ← stop.passes_iff, ← good]
    split
    · rename_i up
      exact iff_of_true rfl up
    · rename_i down
      exact iff_of_false (fun never => by cases never) down
  · obtain rfl := stop.eq_first bound passed least
    rw [if_pos (good.2 passed)] at next
    have now : (m.handle r).2.plant.now = (r.plant.polled m.timings.poll k).now := by
      rw [handle_now, next]
      exact still _
    refine ⟨by rw [handle_sequencer, next], now, fun at_once => ?_⟩
    subst at_once
    exact now
  · obtain rfl := stop.eq_last never
    rw [if_neg (mt good.1 (never k stop.within))] at next
    refine ⟨by rw [handle_state, next]; rfl, ?_, fun clear => ?_, ?_⟩
    · rw [handle_forcing, next]
      exact forceShutdown_forcing ..
    · rw [handle_sequencer, next]
      simp only [fail, forceShutdownNow, forceShutdown, clear, Bool.false_eq_true, ↓reduceIte]
    · rw [handle_now, next]
      rfl
  · rw [ends turns enough, waited]
    exact Prod.ext rfl (m.compositeGood_plant looks r.rails _)

/-- S0 is left only for a loss of power good that outlasts its window, and S3S0 is left for S0 as soon
as power is good within its own. -/
theorem rides_out (m : Sequencer) (r : Rig σ) (fits : r.plant.now.micros ≤ Instant.last)
    (counts : 1 ≤ m.timings.poll.micros) :
    (m.state = .s0 → m.forcingShutdown = false →
        ∃ last, m.RidesOut r m.timings.apDebounce last) ∧
      (m.state = .s3s0 → ∃ last, m.RidesOut r m.timings.apFirst last) := by
  refine ⟨fun state clear => ?_, fun state => ?_⟩
  · refine m.ridesOut_of_next clocked looks r _ id (fun _ => rfl) fits counts ?_
    simp only [next, state, watchAp, clear, Bool.false_eq_true, ↓reduceIte]
    rfl
  · refine m.ridesOut_of_next clocked looks r _ (fun p => (p.notify .resume).setIdleSleep false)
      (fun p => ?_) fits counts ?_
    · exact (clocked.still (.setIdleSleep false) _ fun _ same => by cases same).trans
        (clocked.still (.notify .resume) p.board fun _ same => by cases same)
    · simp only [next, state, awaitAp]

end Wait

end Sequencer

namespace Carrier

def dropped (line : Line) (micros : Nat) (r : Rig Bench) : Rig Bench :=
  let dropout : Dropout := ⟨line, r.plant.now.micros, r.plant.now.micros + micros⟩
  { r with plant := { r.plant with board := { r.plant.board with dropouts := [dropout] } } }

def shortWindow : PowerTimings := { PowerTimings.builtIn with apDebounce := Span.ofMillis 3 }

def rising : PowerTrain Bench :=
  (PowerTrain.fresh rails RailTiming.builtIn plan shortWindow ⟨bench, Journal.fresh⟩).run
    (.exitHardOff :: List.replicate 5 .handle)

/-- The AP signal that is back at the end of the window is still seen by the last look; one that is
back a microsecond later is not. -/
theorem rides_glitch_out :
    let up := rising.apply .handle
    let m := up.sequencer
    let recovers := dropped apAlive 3000 up.rig
    let lost := dropped apAlive 3001 up.rig
    (∃ last, rising.sequencer.RidesOut rising.rig shortWindow.apFirst last ∧
        ∃ k ≤ last, rising.sequencer.GoodAt rising.rig.rails rising.rig.plant k) ∧
      m.RidesOut recovers shortWindow.apDebounce 3 ∧ (m.handle recovers).1 = m ∧
      (m.handle recovers).2.plant.now = recovers.plant.now.after shortWindow.apDebounce ∧
      m.RidesOut lost shortWindow.apDebounce 3 ∧ (m.handle lost).1.state = .s0s3 ∧
      (m.handle lost).1.lastShutdown = some .powerGoodLost := by
  intro up m recovers lost
  have state : m.state = .s0 := by decide +kernel
  have clear : m.forcingShutdown = false := by decide +kernel
  have poll : m.timings.poll.micros = 1000 := by decide +kernel
  have window : m.timings.apDebounce = shortWindow.apDebounce := by decide +kernel
  have begun : up.rig.plant.now = ⟨36000⟩ := by decide +kernel
  have rides : ∀ micros, m.RidesOut (dropped apAlive micros up.rig) shortWindow.apDebounce 3 := by
    intro micros
    let r := dropped apAlive micros up.rig
    have now : r.plant.now = ⟨36000⟩ := begun
    have fits : r.plant.now.micros ≤ Instant.last := by
      rw [now]
      decide
    obtain ⟨last, through⟩ : ∃ last, m.RidesOut r m.timings.apDebounce last :=
      (m.rides_out Bench.clocked Bench.looksOnly r fits (by omega)).1 state clear
    rw [window] at through
    have ends : (Instant.after ⟨36000⟩ shortWindow.apDebounce).micros = 39000 := by decide
    have late := through.late
    have early := through.early 3
    simp only [ends, through.instants, now, poll, Instant.last] at late early
    have at_three : last = 3 := by omega
    exact at_three ▸ through
  obtain ⟨last, waits⟩ := (rising.sequencer.rides_out Bench.clocked Bench.looksOnly rising.rig
    (by decide +kernel) (by decide +kernel)).2 (by decide +kernel)
  have looked := m.compositeGood_at Bench.looksOnly
  have back : m.GoodAt recovers.rails recovers.plant 3 := (looked _ _ 3).1 (by decide +kernel)
  have away : ∀ i < 3, ¬ m.GoodAt recovers.rails recovers.plant i := fun i below =>
    mt (looked _ _ i).2 (by revert i; decide +kernel)
  have gone : ∀ i ≤ 3, ¬ m.GoodAt lost.rails lost.plant i := fun i bound =>
    mt (looked _ _ i).2 (by revert i; decide +kernel)
  have through : m.RidesOut recovers shortWindow.apDebounce 3 := rides 3000
  have fails : m.RidesOut lost shortWindow.apDebounce 3 := rides 3001
  obtain ⟨same, held, _⟩ := through.holds 3 (Nat.le_refl 3) back away
  obtain ⟨down, _, reason, _⟩ := fails.drops gone
  have arrives : (rising.sequencer.handle rising.rig).1.state = .s0 := state
  refine ⟨⟨last, waits, waits.up_iff.1 arrives⟩, through, ?_, ?_, fails, down, reason clear⟩
  · rw [same, ← state]
  · rw [held]
    decide +kernel

end Carrier

end BoardWarden
