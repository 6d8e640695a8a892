import Mathlib.Data.List.Infix
import BoardWarden.Proofs.Power.Train

set_option autoImplicit false

/-!
The ways through the power states. S3 and S5 are on the way up and on the way down, and the latch
alone chooses; with the latch set on every stretch that leads down, a run goes from G3 to G3 by one
of five routes, and G3 is left only on request.
-/

namespace BoardWarden.PowerTrain

variable {σ : Type}

def routes : List (List PowerState) :=
  [[.g3s5, .s5, .s5g3],
    [.g3s5, .s5, .s5s3, .s0s3, .s3, .s3s5, .s5, .s5g3],
    [.g3s5, .s5, .s5s3, .s3, .s3s5, .s5, .s5g3],
    [.g3s5, .s5, .s5s3, .s3, .s3s0, .s0s3, .s3, .s3s5, .s5, .s5g3],
    [.g3s5, .s5, .s5s3, .s3, .s3s0, .s0, .s0s3, .s3, .s3s5, .s5, .s5g3]]

/-- What follows the first visit to `s`, if there is one. -/
def onward (s : PowerState) (route : List PowerState) : Option (List PowerState) :=
  if s ∈ route then some (route.dropWhile (· != s)).tail else none

/-- What may lie between a state and the next G3. The latch closes the ways up. -/
def ways (s : PowerState) (forcing : Bool) : List (List PowerState) :=
  match s, forcing with
  | .g3, _ => routes
  | .s5, true => [[.s5g3]]
  | .s3, true => [[.s3s5, .s5, .s5g3]]
  | s, _ => routes.filterMap (onward s)

theorem ways_nonempty (s : PowerState) (forcing : Bool) : ∃ w, w ∈ ways s forcing := by
  cases s <;> cases forcing <;> exact ⟨_, List.mem_cons_self⟩

theorem ways_latch (s : PowerState) {forcing forcing' : Bool}
    (kept : forcing = true → forcing' = true) : ways s forcing' ⊆ ways s forcing := by
  cases forcing <;> cases forcing' <;> cases s <;> first | decide | simp at kept

theorem Moves.ways {s s' : PowerState} {f f' : Bool} (h : Moves s f s' f')
    (latched : isDescent s = true → f = true) (left : s' ≠ s) (out : s' ≠ .g3) :
    ∀ w ∈ ways s' f', s' :: w ∈ PowerTrain.ways s f := by
  cases h with
  | rest | stay => exact absurd rfl left
  | climb | sink | upperUp => decide
  | off => exact absurd rfl out
  | suspended f held =>
    rw [latched rfl, Bool.true_or]
    decide
  | lowered f =>
    rw [latched rfl]
    decide
  | leave f | clear f | primaryUp f | primaryFailed f | turnBack f | apUp f | apFailed f | suspend f =>
    cases f <;> decide

theorem Moves.arrive {s s' : PowerState} {f f' : Bool} (h : Moves s f s' f') (left : s' ≠ s)
    (home : s' = .g3) : [] ∈ PowerTrain.ways s f := by
  cases h with
  | rest => exact absurd rfl left
  | off f => cases f <;> decide
  | _ => cases home

variable [Board σ]

def visits (t : PowerTrain σ) : List (Request σ) → List PowerState
  | [] => [t.state]
  | q :: rest =>
    if (t.apply q).state = t.state then (t.apply q).visits rest
    else t.state :: (t.apply q).visits rest

theorem visits_head (t : PowerTrain σ) (qs : List (Request σ)) :
    ∃ others, t.visits qs = t.state :: others := by
  induction qs generalizing t with
  | nil => exact ⟨[], rfl⟩
  | cons q rest ih =>
    simp only [visits]
    split
    · rename_i same
      obtain ⟨others, h⟩ := ih (t.apply q)
      exact ⟨others, by rw [h, same]⟩
    · exact ⟨_, rfl⟩

theorem visits_suffix (t : PowerTrain σ) (qs : List (Request σ)) (pre rest : List PowerState)
    (s : PowerState) (h : t.visits qs = pre ++ s :: rest) :
    ∃ before after, qs = before ++ after ∧ (t.run before).state = s ∧
      (t.run before).visits after = s :: rest := by
  induction qs generalizing t pre with
  | nil =>
    cases pre with
    | nil =>
      obtain ⟨rfl, rfl⟩ := List.cons.inj h
      exact ⟨[], [], rfl, rfl, rfl⟩
    | cons first pre =>
      simp [visits] at h
  | cons q qs ih =>
    by_cases start : pre = []
    · subst start
      obtain ⟨others, head⟩ := t.visits_head (q :: qs)
      have same : t.state = s := by
        rw [head] at h
        exact (List.cons.inj h).1
      exact ⟨[], q :: qs, rfl, same, h⟩
    · have later : ∃ pre', (t.apply q).visits qs = pre' ++ s :: rest := by
        simp only [visits] at h
        split at h
        · exact ⟨pre, h⟩
        · obtain ⟨first, pre', rfl⟩ := List.exists_cons_of_ne_nil start
          exact ⟨pre', (List.cons.inj h).2⟩
      obtain ⟨pre', h'⟩ := later
      obtain ⟨before, after, rfl, at_s, seen⟩ := ih (t.apply q) pre' h'
      exact ⟨q :: before, after, rfl, at_s, seen⟩

/-- A run stays on the ways of its first state until it comes to G3, and comes there only at the
end of a way. -/
theorem visits_ways (t : PowerTrain σ) (latched : t.Latched) (qs : List (Request σ))
    (mid post : List PowerState) (h : t.visits qs = t.state :: (mid ++ post)) (out : .g3 ∉ mid) :
    ∃ w ∈ ways t.state t.forcing, mid <+: w ∧ (post.head? = some .g3 → mid = w) := by
  -- From the last request back: one that keeps the state may set the latch and so close ways, and
  -- a move puts the state that it enters in front of the ways from there.
  induction qs generalizing t mid with
  | nil =>
    obtain ⟨rfl, rfl⟩ : mid = [] ∧ post = [] := by simpa [visits] using h
    obtain ⟨w, hw⟩ := ways_nonempty t.state t.forcing
    exact ⟨w, hw, List.nil_prefix, by simp⟩
  | cons q rest ih =>
    have latched' := t.apply_latched q latched
    simp only [visits] at h
    split at h
    · rename_i same
      rw [← same] at h
      obtain ⟨w, hw, ahead⟩ := ih (t.apply q) latched' mid h out
      rw [same] at hw
      refine ⟨w, ways_latch t.state ?_ hw, ahead⟩
      by_cases step : q = .handle
      · subst step
        have move := t.handle_moves
        rw [same] at move
        generalize t.state = s, t.forcing = f, (t.apply .handle).forcing = f' at move
        cases move <;> exact id
      · exact (t.apply_state q step).2
    · rename_i left
      have step : q = .handle := by
        by_contra other
        exact left (t.apply_state q other).1
      subst step
      have move := t.handle_moves
      obtain ⟨others, head⟩ := (t.apply .handle).visits_head rest
      have tail := (List.cons.inj h).2
      rw [head] at tail
      cases mid with
      | nil =>
        by_cases home : (t.apply .handle).state = .g3
        · exact ⟨[], move.arrive left home, List.nil_prefix, fun _ => rfl⟩
        · obtain ⟨w, hw⟩ := ways_nonempty t.state t.forcing
          refine ⟨w, hw, List.nil_prefix, fun first => ?_⟩
          rw [List.nil_append] at tail
          rw [← tail] at first
          exact absurd (Option.some.inj first) home
      | cons s mid =>
        obtain ⟨rfl, tail⟩ := List.cons.inj tail
        obtain ⟨away, out⟩ : ¬ PowerState.g3 = (t.apply .handle).state ∧ .g3 ∉ mid := by
          simpa only [List.mem_cons, not_or] using out
        obtain ⟨w, hw, ⟨more, rfl⟩, whole⟩ :=
          ih (t.apply .handle) latched' mid (by rw [head, tail]; rfl) out
        refine ⟨_, move.ways latched left (Ne.symm away) _ hw, ⟨more, rfl⟩, fun first => ?_⟩
        rw [← whole first]

theorem visits_from (t : PowerTrain σ) (latched : t.Latched) (qs : List (Request σ))
    (pre mid post : List PowerState) (s : PowerState)
    (h : t.visits qs = pre ++ s :: (mid ++ post)) (out : .g3 ∉ mid) :
    ∃ forcing, ∃ w ∈ ways s forcing, mid <+: w ∧ (post.head? = some .g3 → mid = w) := by
  obtain ⟨before, after, rfl, rfl, seen⟩ := t.visits_suffix qs pre _ s h
  exact ⟨_, (t.run before).visits_ways (t.run_latched before latched) after mid post seen out⟩

theorem routes_to_s0 (w : List PowerState) (hw : w ∈ routes) (pre : List PowerState)
    (h : pre ++ [.s0] <+: w) : pre = [.g3s5, .s5, .s5s3, .s3, .s3s0] := by
  have climb : ∀ w ∈ routes, ∀ p ∈ w.inits, p.getLast? = some .s0 →
      p.dropLast = [.g3s5, .s5, .s5s3, .s3, .s3s0] := by decide
  have last := climb w hw (pre ++ [.s0]) ((List.mem_inits _ _).2 h) (by simp)
  rwa [List.dropLast_concat] at last

theorem last_visit {s : PowerState} {path : List PowerState} (h : s ∈ path) :
    ∃ earlier later, path = earlier ++ s :: later ∧ s ∉ later := by
  obtain ⟨later, earlier, split, out⟩ := List.eq_append_cons_of_mem (List.mem_reverse.2 h)
  refine ⟨earlier.reverse, later.reverse, ?_, by simpa using out⟩
  rw [← List.reverse_reverse path, split]
  simp

/-- A request for power that stands was taken in G3 or on the last stretch before it, or stood
before, and then G3 has not been left. -/
theorem apply_exitRequested (t : PowerTrain σ) (q : Request σ)
    (asked : (t.apply q).sequencer.exitRequested = true) :
    (q = .exitHardOff ∧ t.state ∈ [PowerState.s5g3, .g3]) ∨
      (t.sequencer.exitRequested = true ∧
        (t.state ∈ [PowerState.s5g3, .g3] → (t.apply q).state ∈ [PowerState.s5g3, .g3])) := by
  by_cases step : q = .handle
  · subst step
    have kept := t.sequencer.handle_exitRequested t.rig
    simp only [apply] at asked
    rw [kept, Bool.and_eq_true] at asked
    obtain ⟨before, left⟩ := asked
    refine .inr ⟨before, fun low => ?_⟩
    have move := t.handle_moves
    have hs : t.state = .s5g3 := by
      have hne : t.sequencer.state ≠ .g3 := by simpa using left
      simpa [state, hne] using low
    rw [hs] at move
    generalize (t.apply .handle).state = s', t.forcing = f, (t.apply .handle).forcing = f' at move ⊢
    cases move
    decide
  · have same := (t.apply_state q step).1
    rw [same]
    cases q with
    | handle => exact absurd rfl step
    | exitHardOff =>
      by_cases low : t.state ∈ [PowerState.s5g3, .g3]
      · exact .inl ⟨rfl, low⟩
      · refine .inr ⟨?_, id⟩
        simp only [apply, Sequencer.exitHardOff] at asked
        split at asked
        · rename_i hs
          simp [state, hs] at low
        · rename_i hs
          simp [state, hs] at low
        · exact asked
    | serviceFaults =>
      refine .inr ⟨?_, id⟩
      simp only [apply, serviceFaults] at asked
      split at asked
      · split at asked
        · exact asked
        · simpa [forceShutdown] using asked
      · exact asked
    | forceShutdown reason time => exact .inr ⟨by simpa [apply, forceShutdown] using asked, id⟩
    | reset reason => exact .inr ⟨by simpa [apply] using asked, id⟩
    | setButtonHeld _ | requestFaultCheck | outside _ => exact .inr ⟨asked, id⟩

/-- On every run, a request for power that stands goes back to one that was taken, and G3 has not
been left since. -/
theorem run_exitRequested (start : PowerTrain σ) (clear : start.sequencer.exitRequested = false)
    (qs : List (Request σ)) (asked : (start.run qs).sequencer.exitRequested = true) :
    ∃ before since, qs = before ++ .exitHardOff :: since ∧
      ∀ part, part <+: since →
        (start.run (before ++ .exitHardOff :: part)).state ∈ [PowerState.s5g3, .g3] := by
  induction qs using List.reverseRecOn with
  | nil =>
    change start.sequencer.exitRequested = true at asked
    rw [clear] at asked
    cases asked
  | append_singleton qs q ih =>
    rw [run_concat] at asked
    rcases (start.run qs).apply_exitRequested q asked with ⟨rfl, low⟩ | ⟨stood, stays⟩
    · refine ⟨qs, [], rfl, fun part hp => ?_⟩
      rw [List.prefix_nil.1 hp, run_concat, (apply_state _ _ (by simp)).1]
      exact low
    · obtain ⟨before, since, rfl, low⟩ := ih stood
      refine ⟨before, since ++ [q], by simp, fun part hp => ?_⟩
      rcases List.prefix_concat_iff.1 hp with rfl | hp
      · have split : before ++ .exitHardOff :: (since ++ [q]) =
            (before ++ .exitHardOff :: since) ++ [q] := by simp
        rw [split, run_concat]
        exact stays (low since List.prefix_rfl)
      · exact low part hp

theorem leave_g3 (t : PowerTrain σ) (home : t.state = .g3) (left : (t.apply .handle).state ≠ .g3) :
    t.sequencer.exitRequested = true := by
  by_contra unasked
  have stays : (t.apply .handle).state = .g3 := by
    change (t.sequencer.handle t.rig).1.state = .g3
    rw [Sequencer.handle_state]
    change t.sequencer.state = .g3 at home
    simp [Sequencer.next, home, unasked]
  exact left stays

/-- The path law of the sequencer. From G3 to G3 a run takes one of the five routes; S0 comes after
S5, S3 and the way between S3 and S0; after the way down from S0 nothing climbs before G3; and G3 is
left only by a step that follows a request for power, taken since G3 was last left. -/
theorem run_routes (table : List Rail) (timing : RailTiming) (plan : PowerPlan)
    (timings : PowerTimings) (plant : Plant σ) (requests : List (Request σ)) :
    let start := fresh table timing plan timings plant
    (∀ pre mid post, start.visits requests = pre ++ .g3 :: (mid ++ .g3 :: post) → .g3 ∉ mid →
        mid ∈ routes) ∧
      (∀ pre post, start.visits requests = pre ++ .s0 :: post →
        [.g3, .g3s5, .s5, .s5s3, .s3, .s3s0] <:+ pre) ∧
      (∀ pre mid post, start.visits requests = pre ++ .s0s3 :: (mid ++ post) → .g3 ∉ mid →
        .s3s0 ∉ mid ∧ .s5s3 ∉ mid) ∧
      ∀ before q after, requests = before ++ q :: after → (start.run before).state = .g3 →
        (start.run (before ++ [q])).state ≠ .g3 →
        q = .handle ∧ ∃ asked since, before = asked ++ .exitHardOff :: since ∧
          ∀ part, part <+: since →
            (start.run (asked ++ .exitHardOff :: part)).state ∈ [PowerState.s5g3, .g3] := by
  intro start
  have latched : start.Latched := fresh_latched table timing plan timings plant
  refine ⟨?_, ?_, ?_, ?_⟩
  · intro pre mid post h out
    obtain ⟨_, w, hw, _, whole⟩ := start.visits_from latched requests pre mid (.g3 :: post) .g3 h out
    rw [whole rfl]
    exact hw
  · intro pre post h
    obtain ⟨others, head⟩ := start.visits_head requests
    have home : PowerState.g3 ∈ pre := by
      cases pre with
      | nil =>
        rw [head] at h
        cases (List.cons.inj h).1
      | cons first pre =>
        rw [head] at h
        rw [← (List.cons.inj h).1]
        exact List.mem_cons_self
    obtain ⟨earlier, climb, rfl, out⟩ := last_visit home
    have ahead : .g3 ∉ climb ++ [PowerState.s0] := by simpa using out
    obtain ⟨_, w, hw, climbed, _⟩ :=
      start.visits_from latched requests earlier (climb ++ [.s0]) post .g3 (by simpa using h) ahead
    exact ⟨earlier, by rw [routes_to_s0 w hw climb climbed]⟩
  · intro pre mid post h out
    obtain ⟨forcing, w, hw, ahead, _⟩ := start.visits_from latched requests pre mid post .s0s3 h out
    have down : ∀ forcing, ∀ w ∈ ways .s0s3 forcing, .s3s0 ∉ w ∧ .s5s3 ∉ w := by decide
    obtain ⟨low, low'⟩ := down forcing w hw
    exact ⟨fun hm => low (ahead.subset hm), fun hm => low' (ahead.subset hm)⟩
  · intro before q after _ home left
    rw [run_concat] at left
    by_cases step : q = .handle
    · subst step
      exact ⟨rfl, start.run_exitRequested rfl before ((start.run before).leave_g3 home left)⟩
    · rw [(apply_state _ q step).1] at left
      exact absurd home left

/-- The carrier on its bench goes up to S0, is shut down by the host and comes back to G3 by the
longest route. -/
theorem carrier_takes_route :
    let start := fresh Carrier.rails RailTiming.builtIn Carrier.plan PowerTimings.builtIn
      ⟨Carrier.bench, Journal.fresh⟩
    let requests := .exitHardOff :: List.replicate 7 .handle ++
      .forceShutdown .host Instant.zero :: List.replicate 7 .handle
    let mid := [PowerState.g3s5, .s5, .s5s3, .s3, .s3s0, .s0, .s0s3, .s3, .s3s5, .s5, .s5g3]
    start.visits requests = [] ++ .g3 :: (mid ++ .g3 :: []) ∧ mid ∈ routes :=
  have seen := by decide +kernel
  ⟨seen, (run_routes _ _ _ _ _ _).1 [] _ [] seen (by decide)⟩

end BoardWarden.PowerTrain
