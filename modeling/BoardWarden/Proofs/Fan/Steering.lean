import BoardWarden.Proofs.Fan.Stalls

set_option autoImplicit false

namespace BoardWarden

theorem FitsSigned.of_natAbs {number : Int} (small : number.natAbs ≤ 2147483647) :
    FitsSigned number := by
  simp only [FitsSigned, maxSigned]
  omega

def FanConfig.ofTicks (ticks : Nat) : FanConfig :=
  { FanConfig.builtIn with tachClock := ticks, tachPrescaler := 0, captureDivider := 1 }

namespace FanChannel

variable (c : FanChannel) (band : Nat)

def afterCorrection (error : Int) : Correction → FanChannel
  | .hold => { c with lastError := error, status := .locked }
  | .move duty => { c with lastError := error, status := .changing, duty }
  | .saturated => { c with lastError := error, status := .frustrated }

def adjusted (error : Int) : FanChannel :=
  c.afterCorrection error (correction (min band maxSigned) error c.duty)

def steered (actual : Nat) : FanChannel :=
  if c.uncontrolled then c else c.adjusted band (c.speedError actual)

variable {c band}

theorem measured_on (on : c.enabled = true) (config : FanConfig) (period : Nat) :
    c.measured config period = config.rpmOfPeriod period := by
  by_cases void : period = 0 <;> simp [measured, on, void, FanConfig.rpmOfPeriod]

theorem speedError_locked (locked : c.status = .locked) (actual : Nat) :
    c.speedError actual = damped c.lastError (c.gap actual) := by
  simp only [speedError, locked, ↓reduceIte]

theorem speedError_unlocked (unlocked : c.status ≠ .locked) (actual : Nat) :
    c.speedError actual = c.gap actual := by
  simp only [speedError, unlocked, ↓reduceIte]

/-- Of a channel that is corrected, only the duty, the status and the error are not as before. -/
theorem adjusted_eq (error : Int) : c.adjusted band error =
    { c with
      duty := (c.adjusted band error).duty
      status := (c.adjusted band error).status
      lastError := error } := by
  simp only [adjusted]
  cases correction (min band maxSigned) error c.duty <;> rfl

theorem adjusted_within {error : Int} (within : error.natAbs ≤ min band maxSigned) :
    c.adjusted band error = { c with lastError := error, status := .locked } := by
  have below : ¬ ((min band maxSigned : Nat) : Int) < error := by omega
  have above : ¬ error < -((min band maxSigned : Nat) : Int) := by omega
  simp only [adjusted, afterCorrection, correction, below, above, ↓reduceIte]

theorem adjusted_low {error : Int} (low : ((min band maxSigned : Nat) : Int) < error) :
    c.adjusted band error =
      if 100 ≤ c.duty then { c with lastError := error, status := .frustrated }
      else { c with
        lastError := error
        status := .changing
        duty := min (c.duty + dutyStep error.natAbs) 100 } := by
  simp only [adjusted, correction, low, ↓reduceIte]
  by_cases full : 100 ≤ c.duty <;> simp only [full, afterCorrection, ↓reduceIte]

theorem adjusted_high {error : Int} (high : error < -((min band maxSigned : Nat) : Int)) :
    c.adjusted band error =
      if c.duty = 0 then { c with lastError := error, status := .frustrated }
      else { c with
        lastError := error
        status := .changing
        duty := c.duty - dutyStep error.natAbs } := by
  have below : ¬ ((min band maxSigned : Nat) : Int) < error := by omega
  simp only [adjusted, correction, below, high, ↓reduceIte]
  by_cases rests : c.duty = 0 <;> simp only [rests, afterCorrection, ↓reduceIte]

theorem adjusted_locked_iff {error : Int} :
    (c.adjusted band error).status = .locked ↔ error.natAbs ≤ min band maxSigned := by
  by_cases within : error.natAbs ≤ min band maxSigned
  · simp only [adjusted_within within, within]
  · by_cases low : 0 < error
    · rw [adjusted_low (by omega)]
      split <;> simp [within]
    · rw [adjusted_high (by omega)]
      split <;> simp [within]

theorem steered_of_controlled (controlled : c.uncontrolled = false) (actual : Nat) :
    c.steered band actual = c.adjusted band (c.speedError actual) := by
  simp only [steered, controlled, Bool.false_eq_true, ↓reduceIte]

theorem steered_keeps (c : FanChannel) (band actual : Nat) :
    (c.steered band actual).enabled = c.enabled ∧ (c.steered band actual).mode = c.mode ∧
      (c.steered band actual).target = c.target := by
  simp only [steered]
  split
  · exact ⟨rfl, rfl, rfl⟩
  · rw [adjusted_eq]
    exact ⟨rfl, rfl, rfl⟩

end FanChannel

namespace FanBank

variable {σ : Type} [Board σ]

def carryOut (fan : FanId) (time : Instant) (actual : Nat) (error : Int) (c : FanChannel)
    (p : Plant σ) (step : FanChannel.Correction) : FanChannel × Plant σ :=
  (c.afterCorrection error step,
    match step with
    | .hold => p
    | .move duty => p.setDuty fan duty
    | .saturated =>
      if c.status = .frustrated then p
      else p.recordAt (.fanFrustrated fan) (.fan c.duty actual) time)

theorem controlChannel_eq (config : FanConfig) (fan : FanId) (time : Instant) (c : FanChannel)
    (p : Plant σ) (controlled : ¬ c.uncontrolled = true) :
    let actual := c.measured config (p.tach fan).period
    controlChannel config fan time c p = carryOut fan time actual (c.speedError actual) c p
      (FanChannel.correction (min config.band maxSigned) (c.speedError actual) c.duty) := by
  simp only [controlChannel, controlled, ↓reduceIte, Bool.false_eq_true]
  split <;> rename_i step <;> simp only [step, carryOut, FanChannel.afterCorrection]

theorem controlChannel_fst (config : FanConfig) (fan : FanId) (time : Instant) (c : FanChannel)
    (p : Plant σ) : (controlChannel config fan time c p).1 =
      c.steered config.band (c.measured config (p.tach fan).period) := by
  by_cases controlled : c.uncontrolled = true
  · simp only [controlChannel, FanChannel.steered, controlled, ↓reduceIte]
  · rw [controlChannel_eq config fan time c p controlled, FanChannel.steered, if_neg controlled]
    rfl

theorem controlTick_channel (tachs : Tachometers σ) {b : FanBank} {fan : FanId} {c : FanChannel}
    (hc : b.channel? fan = some c) (time : Instant) (p : Plant σ) :
    (b.controlTick true time p).1.channel? fan =
      some (c.steered b.config.band (b.measured fan p)) := by
  obtain ⟨before, channel, _⟩ := ticked_at Plant.tach
    (fun fan c p other _ => controlChannel_tach tachs b.config time fan c p other) b p hc
  have speed : b.measured fan p = c.measured b.config (p.tach fan).period := by
    simp only [measured, hc]
  rw [controlChannel_fst, before, ← speed] at channel
  exact channel

theorem controlTick_config (b : FanBank) (powered : Bool) (time : Instant) (p : Plant σ) :
    (b.controlTick powered time p).1.config = b.config := by
  simp only [controlTick]
  split <;> rfl

def ticked (b : FanBank) (found : Nat → FanSecond σ) : Nat → FanBank
  | 0 => b
  | n + 1 => ((b.ticked found n).controlTick true (found n).time (found n).plant).1

def speedAt (b : FanBank) (found : Nat → FanSecond σ) (fan : FanId) (n : Nat) : Nat :=
  (b.ticked found n).measured fan (found n).plant

theorem ticked_config (b : FanBank) (found : Nat → FanSecond σ) (n : Nat) :
    (b.ticked found n).config = b.config := by
  induction n with
  | zero => rfl
  | succ n ih => exact (controlTick_config _ _ _ _).trans ih

theorem ticked_succ (tachs : Tachometers σ) {b : FanBank} {found : Nat → FanSecond σ} {fan : FanId}
    {n : Nat} {c : FanChannel} (hc : (b.ticked found n).channel? fan = some c) :
    (b.ticked found (n + 1)).channel? fan =
      some (c.steered b.config.band (b.speedAt found fan n)) := by
  have next := controlTick_channel tachs hc (found n).time (found n).plant
  rwa [ticked_config] at next

theorem ticked_keeps (tachs : Tachometers σ) {b : FanBank} (found : Nat → FanSecond σ) {fan : FanId}
    {c : FanChannel} (hc : b.channel? fan = some c) (n : Nat) :
    ∃ d, (b.ticked found n).channel? fan = some d ∧
      d.enabled = c.enabled ∧ d.mode = c.mode ∧ d.target = c.target := by
  induction n with
  | zero => exact ⟨c, hc, rfl, rfl, rfl⟩
  | succ n ih =>
    obtain ⟨d, hd, enabled, mode, target⟩ := ih
    obtain ⟨enabled', mode', target'⟩ := d.steered_keeps b.config.band (b.speedAt found fan n)
    exact ⟨_, ticked_succ tachs hd, enabled'.trans enabled, mode'.trans mode, target'.trans target⟩

theorem speedAt_of_channel {b : FanBank} {found : Nat → FanSecond σ} {fan : FanId} {n : Nat}
    {c : FanChannel} (hc : (b.ticked found n).channel? fan = some c) :
    b.speedAt found fan n = c.measured b.config ((found n).plant.tach fan).period := by
  simp only [speedAt, measured, hc, ticked_config]

end FanBank

end BoardWarden
