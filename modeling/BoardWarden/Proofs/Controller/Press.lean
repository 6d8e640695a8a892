import BoardWarden.Proofs.Controller.Descent

set_option autoImplicit false

namespace BoardWarden

variable {σ : Type} [Board σ]

theorem Work.pending {r r' : Rig σ} (work : Work r r') :
    r'.rails.faultCheckPending = r.rails.faultCheckPending := by
  induction work with
  | rest => rfl
  | look p before quiet ih => exact ih
  | @raise s rail settle timeout before ih =>
    obtain ⟨state, entered, _⟩ := s.powerOn_rails rail settle timeout
    rw [entered]
    exact ih
  | @lower s rail before ih =>
    have kept : (s.powerOff rail).2.rails.faultCheckPending = s.rails.faultCheckPending := by
      simp only [Rig.powerOff]
      split <;> rfl
    rw [kept, ih]
  | mark rail before ih => exact ih

theorem Rig.demoteFaulted_pending (rails : List RailId) (r : Rig σ) :
    (demoteFaulted rails r).2.rails.faultCheckPending = r.rails.faultCheckPending := by
  induction rails generalizing r with
  | nil => rfl
  | cons rail rest ih =>
    simp only [demoteFaulted]
    split
    · split
      · exact (ih _).trans rfl
      · exact (ih _).trans rfl
    · exact ih r

namespace Controller

theorem serviceFaults_pending (c : Controller σ) :
    c.serviceFaults.2.rig.rails.faultCheckPending = false := by
  simp only [serviceFaults]
  split
  · split <;> exact Rig.demoteFaulted_pending _ _
  · rename_i idle
    simpa using idle

theorem serviceFaults_forcing (c : Controller σ) :
    c.serviceFaults.2.forcing = true ↔
      c.forcing = true ∨ (c.rig.rails.faultCheckPending = true ∧ c.rig.runFaultCheck.1 ≠ []) := by
  simp only [serviceFaults]
  split
  · rename_i pending
    split
    · rename_i none
      have empty : c.rig.runFaultCheck.1 = [] := by simpa using none
      simp [pending, empty, forcing]
    · rename_i some
      have found : c.rig.runFaultCheck.1 ≠ [] := by simpa using some
      have latch : ({ c with rig := c.rig.runFaultCheck.2 }.forceShutdown .supplyFault).forcing = true :=
        Sequencer.forceShutdown_forcing ..
      simp only [latch, pending, found, ne_eq, not_false_eq_true, and_self, or_true]
  · rename_i idle
    simp [idle]

theorem stepPower_pending (c : Controller σ) : c.stepPower.rig.rails.faultCheckPending = false := by
  have worked : c.work.rig.rails.faultCheckPending = false :=
    (Sequencer.handle_work _ _).pending.trans c.serviceFaults_pending
  rw [stepPower_work, (switchFans_fields _ _).2.1, (pullThermalForward_fields _).2.1, worked]

theorem stepPower_asked (c : Controller σ) (away : c.powerState ≠ .g3) :
    c.stepPower.sequencer.exitRequested = c.sequencer.exitRequested := by
  obtain ⟨state, _, asked, _⟩ := c.serviceFaults_fields
  rw [stepPower_sequencer]
  change (c.serviceFaults.2.sequencer.handle c.serviceFaults.2.rig).1.exitRequested = _
  rw [Sequencer.handle_exitRequested, asked]
  have away' : c.serviceFaults.2.sequencer.state ≠ .g3 := fun home => away (state.symm.trans home)
  simp [away']

theorem stepPower_leaves_g3 (c : Controller σ) (home : c.powerState = .g3)
    (asked : c.sequencer.exitRequested = true) : c.stepPower.powerState = .g3s5 := by
  obtain ⟨state, _, same, _⟩ := c.serviceFaults_fields
  rw [powerState, stepPower_sequencer]
  change (c.serviceFaults.2.sequencer.handle c.serviceFaults.2.rig).1.state = _
  rw [Sequencer.handle_state, Sequencer.next]
  have home' : c.serviceFaults.2.sequencer.state = .g3 := state.trans home
  simp [home', same, asked]

def advance (change : σ → σ) (c : Controller σ) : Controller σ :=
  (c.withBoard (change c.board)).stepPower

def stepping (outside : Nat → σ → σ) (c : Controller σ) : Nat → Controller σ
  | 0 => c
  | n + 1 => (stepping outside c n).advance (outside n)

theorem stepping_add (outside : Nat → σ → σ) (c : Controller σ) (m n : Nat) :
    stepping outside c (m + n) = stepping (fun k => outside (m + k)) (stepping outside c m) n := by
  induction n with
  | zero => rfl
  | succ n ih =>
    change (stepping outside c (m + n)).advance (outside (m + n)) = _
    rw [ih]
    rfl

/-- The AP starts to come up with the `n`th step, and no earlier state is steady. -/
def StartsAt (outside : Nat → σ → σ) (c : Controller σ) (n : Nat) : Prop :=
  (stepping outside c n).powerState = .s5s3 ∧ ∀ k < n, (stepping outside c k).isSteady = false

inductive Climbs : Nat → Controller σ → Prop where
  | starting {c : Controller σ} (state : c.powerState = .s5s3) : Climbs 0 c
  | clear {c : Controller σ} (state : c.powerState = .s5) (unforced : c.forcing = false)
      (idle : c.rig.rails.faultCheckPending = false) : Climbs 1 c
  | leaving {c : Controller σ} (state : c.powerState = .g3s5) : Climbs 2 c
  | asked {c : Controller σ} (state : c.powerState = .g3)
      (asked : c.sequencer.exitRequested = true) : Climbs 3 c
  | sinking {c : Controller σ} (state : c.powerState = .s5g3)
      (asked : c.sequencer.exitRequested = true) : Climbs 4 c

omit [Board σ] in
theorem restless (c : Controller σ)
    (h : c.powerState ∈ [PowerState.s5, .g3s5, .s5g3] ∨
      (c.powerState = .g3 ∧ c.sequencer.exitRequested = true)) : c.isSteady = false := by
  have moving : c.sequencer.isSteady = false := by
    rcases h with away | ⟨home, asked⟩
    · simp only [List.mem_cons, List.not_mem_nil, or_false] at away
      rcases away with state | state | state
      all_goals
        change c.sequencer.state = _ at state
        simp [Sequencer.isSteady, state]
    · change c.sequencer.state = _ at home
      simp [Sequencer.isSteady, home, asked]
  rw [isSteady, moving, Bool.false_and]

/-- What S5 is left to: the latch, as the fault check of the step finds it, decides. -/
theorem stepPower_from_s5 (c : Controller σ) (state : c.powerState = .s5) :
    c.stepPower.powerState = if c.serviceFaults.2.forcing then .s5g3 else .s5s3 := by
  have move := c.stepPower_moves
  rw [state] at move
  generalize c.serviceFaults.2.forcing = f, c.stepPower.powerState = s, c.stepPower.forcing = f'
    at move ⊢
  cases move <;> rfl

theorem stepPower_from_s5g3 (c : Controller σ) (state : c.powerState = .s5g3) :
    c.stepPower.powerState = .g3 := by
  have move := c.stepPower_moves
  rw [state] at move
  generalize c.serviceFaults.2.forcing = f, c.stepPower.powerState = s, c.stepPower.forcing = f'
    at move ⊢
  cases move
  rfl

theorem stepPower_comes_to_rest (c : Controller σ) (state : c.powerState = .s5g3)
    (unasked : c.sequencer.exitRequested = false) :
    c.stepPower.powerState = .g3 ∧ c.stepPower.isSteady = true := by
  have home := c.stepPower_from_s5g3 state
  have quiet := c.stepPower_unasked unasked
  have idle := c.stepPower_pending
  generalize c.stepPower = d at home quiet idle ⊢
  change d.sequencer.state = .g3 at home
  refine ⟨home, ?_⟩
  simp [isSteady, Sequencer.isSteady, home, quiet, idle]

theorem stepPower_from_g3s5 (c : Controller σ) (state : c.powerState = .g3s5) :
    c.stepPower.powerState = .s5 ∧ c.stepPower.forcing = false := by
  have move := c.stepPower_moves
  rw [state] at move
  generalize c.serviceFaults.2.forcing = f, c.stepPower.powerState = s, c.stepPower.forcing = f'
    at move ⊢
  cases move
  exact ⟨rfl, rfl⟩

theorem Climbs.step {n : Nat} {c : Controller σ} (h : Climbs (n + 1) c) (change : σ → σ) :
    c.isSteady = false ∧ Climbs n (c.advance change) := by
  let d := c.withBoard (change c.board)
  cases h with
  | clear state unforced idle =>
    refine ⟨c.restless (.inl (by simp [state])), .starting ?_⟩
    have unlatched : d.serviceFaults.2.forcing = false := by
      rw [← Bool.not_eq_true, serviceFaults_forcing]
      rintro (latch | ⟨pending, _⟩)
      · exact absurd (unforced.symm.trans latch) (by decide)
      · exact absurd (idle.symm.trans pending) (by decide)
    have next := d.stepPower_from_s5 state
    rwa [unlatched] at next
  | leaving state =>
    obtain ⟨next, unforced⟩ := d.stepPower_from_g3s5 state
    exact ⟨c.restless (.inl (by simp [state])), .clear next unforced d.stepPower_pending⟩
  | asked home asked =>
    exact ⟨c.restless (.inr ⟨home, asked⟩), .leaving (d.stepPower_leaves_g3 home asked)⟩
  | sinking state asked =>
    have away : d.powerState ≠ .g3 := by
      change c.powerState ≠ .g3
      simp [state]
    exact ⟨c.restless (.inl (by simp [state])),
      .asked (d.stepPower_from_s5g3 state) ((d.stepPower_asked away).trans asked)⟩

theorem StartsAt.next {outside : Nat → σ → σ} {c : Controller σ} {n : Nat}
    (moving : c.isSteady = false)
    (h : StartsAt (fun k => outside (1 + k)) (c.advance (outside 0)) n) :
    StartsAt outside c (n + 1) := by
  refine ⟨?_, fun k early => ?_⟩
  · rw [Nat.add_comm, stepping_add]
    exact h.1
  · cases k with
    | zero => exact moving
    | succ k =>
      rw [Nat.add_comm, stepping_add]
      exact h.2 k (by omega)

theorem Climbs.starts {n : Nat} {c : Controller σ} (h : Climbs n c) (outside : Nat → σ → σ) :
    StartsAt outside c n := by
  induction n generalizing c outside with
  | zero =>
    cases h with
    | starting state => exact ⟨state, fun k early => absurd early (Nat.not_lt_zero k)⟩
  | succ n ih =>
    obtain ⟨moving, next⟩ := h.step (outside 0)
    exact .next moving (ih next _)

theorem not_startsAt {outside : Nat → σ → σ} {c : Controller σ} {n : Nat}
    (rests : (stepping outside c n).isSteady = true)
    (before : ∀ k ≤ n, (stepping outside c k).powerState ≠ .s5s3) (m : Nat) :
    ¬ StartsAt outside c m := by
  rintro ⟨up, restless⟩
  rcases Nat.lt_or_ge n m with later | early
  · have moving := restless n later
    rw [rests] at moving
    cases moving
  · exact before m early up

def pressed (c : Controller σ) (time : Instant) : Controller σ :=
  (c.powerButtonChanged true time).powerButtonChanged false time

/-- A press in S5 is lost: the latch is set, or the next fault check sets it, and nobody asked for
power before. -/
structure PressLost (change : σ → σ) (c : Controller σ) : Prop where
  state : c.powerState = .s5
  latch : c.forcing = true ∨ (c.rig.rails.faultCheckPending = true ∧
    (c.withBoard (change c.board)).rig.runFaultCheck.1 ≠ [])
  unasked : c.sequencer.exitRequested = false

section Press

variable (c : Controller σ) (time : Instant)

omit [Board σ] in
theorem pressed_asks : Asks c (c.pressed time) :=
  (c.powerButtonChanged_asks true time).trans (powerButtonChanged_asks _ false time)

omit [Board σ] in
theorem pressed_requests (off : c.powerState.isAnyOff = true) :
    (c.pressed time).sequencer.exitRequested = true ↔
      c.sequencer.exitRequested = true ∨ c.powerState = .g3 ∨ c.powerState = .s5g3 := by
  change c.sequencer.state.isAnyOff = true at off
  have asked := (c.sequencer.setButtonHeld true).exitHardOff_requests
  have taken : (c.pressed time).sequencer.exitRequested =
      (c.sequencer.setButtonHeld true).exitHardOff.2.exitRequested := by
    simp only [pressed, powerButtonChanged, ↓reduceIte, Sequencer.setButtonHeld, off]
    rfl
  rw [taken]
  exact asked

end Press

/-- A press while the AP is off brings it up, within five steps and with no rest before, but for a
press in S5 under the latch, which is lost: the controller comes to rest in G3. -/
theorem press_powers_up (c : Controller σ) (off : c.powerState.isAnyOff = true) (time : Instant)
    (outside : Nat → σ → σ) :
    (¬ PressLost (outside 0) c → ∃ n ≤ 5, StartsAt outside (c.pressed time) n) ∧
      (PressLost (outside 0) c → (∀ n, ¬ StartsAt outside (c.pressed time) n) ∧
        (stepping outside (c.pressed time) 2).powerState = .g3 ∧
        (stepping outside (c.pressed time) 2).isSteady = true) := by
  let d := c.pressed time
  have same : d.powerState = c.powerState := (c.pressed_asks time).state
  have request := c.pressed_requests time off
  -- The step after the press finds the rails, and so the latch, as it would without the press.
  have latch : (d.withBoard (outside 0 d.board)).serviceFaults.2.forcing = true ↔
      c.forcing = true ∨ (c.rig.rails.faultCheckPending = true ∧
        (c.withBoard (outside 0 c.board)).rig.runFaultCheck.1 ≠ []) :=
    (serviceFaults_forcing _).trans (by rw [← (c.pressed_asks time).latch]; exact Iff.rfl)
  have first : c.powerState = .s5 → (stepping outside d 1).powerState =
      if (d.withBoard (outside 0 d.board)).serviceFaults.2.forcing then .s5g3 else .s5s3 :=
    fun state => stepPower_from_s5 _ (same.trans state)
  have kept : c.powerState = .s5 →
      (stepping outside d 1).sequencer.exitRequested = d.sequencer.exitRequested :=
    fun state => stepPower_asked _ (by change d.powerState ≠ _; simp [same, state])
  constructor
  · intro taken
    cases state : c.powerState with
    | g3 => exact ⟨3, by decide, (Climbs.asked (same.trans state) (request.2 (by simp [state]))).starts _⟩
    | s5g3 =>
      exact ⟨4, by decide, (Climbs.sinking (same.trans state) (request.2 (by simp [state]))).starts _⟩
    | g3s5 => exact ⟨2, by decide, (Climbs.leaving (same.trans state)).starts _⟩
    | s5 =>
      have moving : d.isSteady = false := d.restless (.inl (by simp [same, state]))
      have next := first state
      cases forced : (d.withBoard (outside 0 d.board)).serviceFaults.2.forcing with
      | false =>
        rw [forced] at next
        exact ⟨1, by decide, .next moving ((Climbs.starting next).starts _)⟩
      | true =>
        rw [forced] at next
        have asked : c.sequencer.exitRequested = true := by
          by_contra unasked
          exact taken ⟨state, latch.1 forced, by simpa using unasked⟩
        exact ⟨5, by decide, .next moving
          ((Climbs.sinking next ((kept state).trans (request.2 (.inl asked)))).starts _)⟩
    | _ => simp [state, PowerState.isAnyOff] at off
  · intro lost
    have sunk : (stepping outside d 1).powerState = .s5g3 := by
      rw [first lost.state, latch.2 lost.latch]
      rfl
    have unasked : (stepping outside d 1).sequencer.exitRequested = false := by
      rw [kept lost.state, ← Bool.not_eq_true, request]
      simp [lost.unasked, lost.state]
    have next : stepping outside d (1 + 1) = (stepping outside d 1).advance (outside 1) := rfl
    obtain ⟨home, rests⟩ := stepPower_comes_to_rest
      ((stepping outside d 1).withBoard (outside 1 (stepping outside d 1).board)) sunk unasked
    change ((stepping outside d 1).advance (outside 1)).powerState = .g3 at home
    change ((stepping outside d 1).advance (outside 1)).isSteady = true at rests
    rw [← next] at home rests
    refine ⟨not_startsAt rests fun k early => ?_, home, rests⟩
    obtain rfl | rfl | rfl : k = 0 ∨ k = 1 ∨ k = 1 + 1 := by omega
    · change d.powerState ≠ .s5s3
      rw [same, lost.state]
      decide
    · rw [sunk]
      decide
    · rw [home]
      decide

def shutDownBy (steps : Nat) : List (Input Bench) :=
  [.init Settings.Store.empty ⟨false, false, false, false⟩, .powerOn] ++ List.replicate 6 .step ++
    .shutDown .host :: List.replicate steps .step

def still : Nat → Bench → Bench := fun _ b => b

theorem carrier_press_starts :
    ∃ c, Reaches carrier c ∧ c.powerState = .s5g3 ∧ c.forcing = true ∧
      ∃ n ≤ 5, StartsAt still (c.pressed c.now) n := by
  obtain ⟨c, reached, state, latch⟩ : ∃ c, along (fun _ _ => true) (shutDownBy 5) carrier = some c ∧
      c.powerState = .s5g3 ∧ c.forcing = true := by
    decide +kernel
  have kept : ¬ PressLost (still 0) c := fun lost => by
    have other := lost.state
    rw [state] at other
    cases other
  exact ⟨c, along_reaches _ _ _ reached, state, latch,
    (press_powers_up c (by rw [state]; rfl) c.now still).1 kept⟩

theorem carrier_press_lost :
    ∃ c, Reaches carrier c ∧ c.powerState.isAnyOff = true ∧
      (stepping still (c.pressed c.now) 2).isSteady = true ∧
      ∀ n, ¬ StartsAt still (c.pressed c.now) n := by
  obtain ⟨c, reached, off, rests, before⟩ :
      ∃ c, along (fun _ _ => true) (shutDownBy 4) carrier = some c ∧ c.powerState.isAnyOff = true ∧
        (stepping still (c.pressed c.now) 2).isSteady = true ∧
        ∀ k ∈ List.range 3, (stepping still (c.pressed c.now) k).powerState ≠ .s5s3 := by
    decide +kernel
  refine ⟨c, along_reaches _ _ _ reached, off, rests, not_startsAt rests fun k early => ?_⟩
  exact before k (List.mem_range.2 (by omega))

end Controller

end BoardWarden
