import BoardWarden.Proofs.Fan.Steering

set_option autoImplicit false

namespace BoardWarden

namespace FanChannel

theorem damped_cut (last error : Int) :
    (0 ≤ 99 * last + error → damped last error = (99 * last + error) / 100) ∧
      (99 * last + error ≤ 0 → damped last error = -(-(99 * last + error) / 100)) := by
  refine ⟨fun up => Int.tdiv_eq_ediv_of_nonneg up, fun down => ?_⟩
  have turned : 0 ≤ -(99 * last + error) := by omega
  rw [← Int.tdiv_eq_ediv_of_nonneg turned, Int.neg_tdiv, Int.neg_neg]
  rfl

theorem damped_within {band : Nat} {last error : Int} (within : last.natAbs ≤ band)
    (near : error.natAbs < band + 100) : (damped last error).natAbs ≤ band := by
  obtain ⟨up, down⟩ := damped_cut last error
  omega

theorem damped_rises {band : Nat} {last error : Int} (within : last.natAbs ≤ band)
    (low : (band : Int) + 100 ≤ error) : last < damped last error := by
  obtain ⟨up, down⟩ := damped_cut last error
  omega

theorem damped_falls {band : Nat} {last error : Int} (within : last.natAbs ≤ band)
    (high : error ≤ -((band : Int) + 100)) : damped last error < last := by
  obtain ⟨up, down⟩ := damped_cut last error
  omega

structure Holds (c : FanChannel) (band : Nat) : Prop where
  mode : c.mode = .rpm
  locked : c.status = .locked
  within : c.lastError.natAbs ≤ band

variable {c : FanChannel} {band : Nat}

/-- A locked channel stays locked just in case the next average is within the band. -/
theorem Holds.steered_iff (h : c.Holds band) (word : band ≤ maxSigned)
    (controlled : c.uncontrolled = false) (actual : Nat) :
    (c.steered band actual).status = .locked ↔
      (damped c.lastError (c.gap actual)).natAbs ≤ band := by
  rw [steered_of_controlled controlled, speedError_locked h.locked, adjusted_locked_iff,
    Nat.min_eq_left word]

theorem Holds.steered (h : c.Holds band) (word : band ≤ maxSigned)
    (controlled : c.uncontrolled = false) (actual : Nat)
    (locked : (c.steered band actual).status = .locked) :
    c.steered band actual = { c with lastError := damped c.lastError (c.gap actual) } ∧
      (c.steered band actual).Holds band := by
  have within := (h.steered_iff word controlled actual).1 locked
  have same : c.steered band actual = { c with lastError := damped c.lastError (c.gap actual) } := by
    rw [steered_of_controlled controlled, speedError_locked h.locked,
      adjusted_within (by rwa [Nat.min_eq_left word]), ← h.locked]
  exact ⟨same, same ▸ ⟨h.mode, h.locked, within⟩⟩

theorem Holds.stays (h : c.Holds band) (word : band ≤ maxSigned) {actual : Nat}
    (near : (c.gap actual).natAbs < band + 100) :
    (c.steered band actual).Holds band ∧ (c.steered band actual).duty = c.duty := by
  cases controlled : c.uncontrolled with
  | true =>
    rw [FanChannel.steered, if_pos controlled]
    exact ⟨h, rfl⟩
  | false =>
    have within := damped_within h.within near
    obtain ⟨same, holds⟩ :=
      h.steered word controlled actual ((h.steered_iff word controlled actual).2 within)
    exact ⟨holds, by rw [same]⟩

theorem Holds.drifts (h : c.Holds band) (word : band ≤ maxSigned)
    (controlled : c.uncontrolled = false) {actual : Nat}
    (locked : (c.steered band actual).status = .locked)
    (far : band + 100 ≤ (c.gap actual).natAbs) :
    (c.steered band actual).Holds band ∧
      (0 < c.gap actual → c.lastError < (c.steered band actual).lastError) ∧
      (c.gap actual < 0 → (c.steered band actual).lastError < c.lastError) := by
  obtain ⟨same, holds⟩ := h.steered word controlled actual locked
  have error := congrArg FanChannel.lastError same
  refine ⟨holds, fun low => error ▸ damped_rises h.within ?_,
    fun high => error ▸ damped_falls h.within ?_⟩
  all_goals omega

end FanChannel

namespace FanBank

variable {σ : Type} [Board σ] {b : FanBank} {found : Nat → FanSecond σ} {fan : FanId} {c : FanChannel}

theorem controlled_of_gap {n : Nat} (hc : (b.ticked found n).channel? fan = some c)
    (mode : c.mode = .rpm) (off : c.gap (b.speedAt found fan n) ≠ 0) : c.uncontrolled = false := by
  cases enabled : c.enabled with
  | true => simp [FanChannel.uncontrolled, enabled, mode]
  | false =>
    refine absurd ?_ off
    simp [FanChannel.gap, FanChannel.liveTarget, speedAt_of_channel hc, FanChannel.measured, enabled]

def ErrorHeld (b : FanBank) (found : Nat → FanSecond σ) (fan : FanId) (error : Int) : Prop :=
  ∀ n d, (b.ticked found n).channel? fan = some d → d.status = .locked →
    d.gap (b.speedAt found fan n) = error

theorem ErrorHeld.of_period (tachs : Tachometers σ) (hc : b.channel? fan = some c) (period : Nat)
    (even : ∀ n, ((found n).plant.tach fan).period = period) :
    b.ErrorHeld found fan (c.gap (c.measured b.config period)) := by
  intro n d hd _
  obtain ⟨e, he, enabled, _, target⟩ := ticked_keeps tachs found hc n
  obtain rfl := Option.some.inj (hd.symm.trans he)
  rw [speedAt_of_channel hd, even n]
  simp only [FanChannel.gap, FanChannel.liveTarget, FanChannel.measured, enabled, target]

theorem ErrorHeld.stays {error : Int} (held : b.ErrorHeld found fan error) (tachs : Tachometers σ)
    (hc : b.channel? fan = some c) (h : c.Holds b.config.band) (word : b.config.band ≤ maxSigned)
    (near : error.natAbs < b.config.band + 100) (n : Nat) :
    ∃ d, (b.ticked found n).channel? fan = some d ∧ d.Holds b.config.band ∧ d.duty = c.duty := by
  induction n with
  | zero => exact ⟨c, hc, h, rfl⟩
  | succ n ih =>
    obtain ⟨d, hd, holds, duty⟩ := ih
    rw [← held n d hd holds.locked] at near
    obtain ⟨holds', duty'⟩ := holds.stays word near
    exact ⟨_, ticked_succ tachs hd, holds', duty'.trans duty⟩

/-- While the fan stays locked, a larger error moves the average on by one at least in each tick. -/
theorem ErrorHeld.drifts {error : Int} (held : b.ErrorHeld found fan error) (tachs : Tachometers σ)
    (hc : b.channel? fan = some c) (h : c.Holds b.config.band) (word : b.config.band ≤ maxSigned)
    (far : b.config.band + 100 ≤ error.natAbs)
    (locked : ∀ n d, (b.ticked found n).channel? fan = some d → d.status = .locked) (n : Nat) :
    ∃ d, (b.ticked found n).channel? fan = some d ∧ d.Holds b.config.band ∧
      (0 < error → c.lastError + n ≤ d.lastError) ∧ (error < 0 → d.lastError + n ≤ c.lastError) := by
  induction n with
  | zero => exact ⟨c, hc, h, fun _ => by simp, fun _ => by simp⟩
  | succ n ih =>
    obtain ⟨d, hd, holds, up, down⟩ := ih
    have next := ticked_succ tachs hd
    have gap := held n d hd holds.locked
    have controlled := controlled_of_gap hd holds.mode (by omega)
    obtain ⟨holds', rises, falls⟩ :=
      holds.drifts word controlled (locked (n + 1) _ next) (by rwa [gap])
    rw [gap] at rises falls
    exact ⟨_, next, holds', by omega, by omega⟩

/-- A locked fan gives up its duty after finitely many ticks just in case the speed error that it is held
at reaches the band and 100 more. At a smaller error it stays locked at its duty for good. -/
theorem lock_tolerance (tachs : Tachometers σ) (b : FanBank) (fan : FanId) (c : FanChannel)
    (hc : b.channel? fan = some c) (mode : c.mode = .rpm) (locked : c.status = .locked)
    (within : c.lastError.natAbs ≤ b.config.band) (error : Int)
    (fits : ∀ last : Int, last.natAbs ≤ b.config.band →
      FitsSigned (99 * last) ∧ FitsSigned (99 * last + error))
    (found : Nat → FanSecond σ) (held : b.ErrorHeld found fan error) :
    ((∃ n d, (b.ticked found n).channel? fan = some d ∧ d.status ≠ .locked) ↔
      b.config.band + 100 ≤ error.natAbs) ∧
    (error.natAbs < b.config.band + 100 →
      ∀ n, ∃ d, (b.ticked found n).channel? fan = some d ∧ d.status = .locked ∧ d.duty = c.duty) := by
  have h : c.Holds b.config.band := ⟨mode, locked, within⟩
  have word : b.config.band ≤ maxSigned := by
    have fit := (fits b.config.band (by simp)).1.2
    omega
  have stays := held.stays tachs hc h word
  refine ⟨⟨fun ⟨n, d, hd, left⟩ => ?_, fun far => ?_⟩, fun near n => ?_⟩
  · refine Nat.not_lt.1 fun near => ?_
    obtain ⟨e, he, holds, _⟩ := stays near n
    obtain rfl := Option.some.inj (hd.symm.trans he)
    exact left holds.locked
  · refine Classical.byContradiction fun never => ?_
    have always : ∀ n d, (b.ticked found n).channel? fan = some d → d.status = .locked :=
      fun n d hd => Decidable.byContradiction fun left => never ⟨n, d, hd, left⟩
    -- The average stays within the band, but has moved on by more than the band is wide.
    obtain ⟨d, _, holds, up, down⟩ :=
      held.drifts tachs hc h word far always (2 * b.config.band + 1)
    have bound := holds.within
    push_cast at up down
    omega
  · obtain ⟨d, hd, holds, duty⟩ := stays near n
    exact ⟨d, hd, holds.locked, duty⟩

def cruising (target : Nat) : FanChannel := { stuck with target, status := .locked }

def evenSecond (seconds : Nat) : FanSecond Bench :=
  ⟨⟨Carrier.bench.onTach ⟨0⟩ (·.spin 20000), Journal.fresh⟩, ⟨seconds * 1000000⟩⟩

def cruise (target : Nat) : FanBank := ⟨[cruising target], FanConfig.builtIn⟩

theorem cruise_held (target : Nat) :
    (cruise target).ErrorHeld evenSecond ⟨0⟩ ((cruising target).gap 9600) := by
  have even : ∀ n, ((evenSecond n).plant.tach ⟨0⟩).period = 20000 := fun _ => rfl
  have speed : FanConfig.builtIn.rpmOfPeriod 20000 = 9600 := by decide
  have held := ErrorHeld.of_period (b := cruise target) (c := cruising target) Bench.tachometers rfl
    20000 even
  simpa [FanChannel.measured, cruise, cruising, stuck, speed] using held

theorem carrier_tolerates :
    (cruise 9849).ErrorHeld evenSecond ⟨0⟩ 249 ∧ (cruise 9850).ErrorHeld evenSecond ⟨0⟩ 250 ∧
      (∀ n, ∃ d, ((cruise 9849).ticked evenSecond n).channel? ⟨0⟩ = some d ∧ d.status = .locked ∧
        d.duty = 40) ∧
      ∃ n d, ((cruise 9850).ticked evenSecond n).channel? ⟨0⟩ = some d ∧ d.status ≠ .locked := by
  have fits : ∀ error : Int, error.natAbs ≤ 250 → ∀ last : Int, last.natAbs ≤ 150 →
      FitsSigned (99 * last) ∧ FitsSigned (99 * last + error) := by
    intro error small last within
    exact ⟨.of_natAbs (by omega), .of_natAbs (by omega)⟩
  have below : (cruise 9849).ErrorHeld evenSecond ⟨0⟩ 249 := cruise_held 9849
  have above : (cruise 9850).ErrorHeld evenSecond ⟨0⟩ 250 := cruise_held 9850
  obtain ⟨_, stays⟩ := lock_tolerance Bench.tachometers (cruise 9849) ⟨0⟩ (cruising 9849) rfl rfl rfl
    (Nat.zero_le _) 249 (fits 249 (by decide)) evenSecond below
  obtain ⟨leaves, _⟩ := lock_tolerance Bench.tachometers (cruise 9850) ⟨0⟩ (cruising 9850) rfl rfl rfl
    (Nat.zero_le _) 250 (fits 250 (by decide)) evenSecond above
  exact ⟨below, above, stays (by decide), leaves.2 (by decide)⟩

end FanBank

end BoardWarden
