import BoardWarden.Proofs.Fan.Damping

set_option autoImplicit false

/-!
The control loop of a fan whose speed follows its duty along a curve. Where one percent of duty makes
little speed, each correction either brings the fan nearer on the same side of its target, or carries it
over into a tier of smaller steps, so the loop comes to rest.
-/

namespace BoardWarden

/-- One percent more of duty makes no less speed, and at most `slope` more. -/
def Gentle (curve : Nat → Nat) (slope : Nat) : Prop :=
  ∀ duty, duty < 100 → curve duty ≤ curve (duty + 1) ∧ curve (duty + 1) ≤ curve duty + slope

theorem Gentle.between {curve : Nat → Nat} {slope : Nat} (gentle : Gentle curve slope) (duty more : Nat)
    (inside : duty + more ≤ 100) :
    curve duty ≤ curve (duty + more) ∧ curve (duty + more) ≤ curve duty + slope * more := by
  induction more with
  | zero => exact ⟨Nat.le_refl _, Nat.le_refl _⟩
  | succ more ih =>
    obtain ⟨low, high⟩ := ih (by omega)
    obtain ⟨rises, gently⟩ := gentle (duty + more) (by omega)
    have next : slope * (more + 1) = slope * more + slope := Nat.mul_succ slope more
    refine ⟨Nat.le_trans low rises, ?_⟩
    rw [next]
    exact Nat.le_trans gently (by omega)

namespace FanChannel

/-- Steps that an error of this size may take, with this much duty left in its direction. -/
def effort (size room : Nat) : Nat :=
  if size ≤ 150 then 0
  else if size ≤ 500 then room
  else if size ≤ 1000 then 101 + (room + 4) / 5
  else 122 + (room + 9) / 10

theorem effort_le {size room : Nat} (inside : room ≤ 100) : effort size room ≤ 132 := by
  simp only [effort]
  repeat' split
  all_goals omega

/-- A step makes the error smaller on its side, or crosses the target by what is left of the step. -/
theorem effort_lt {size size' room room' : Nat} (far : 150 < size) (some : 0 < room)
    (inside : room' ≤ 100)
    (step : (size' ≤ size ∧ room' = room - dutyStep size) ∨ size + size' ≤ 160 * dutyStep size) :
    effort size' room' < effort size room := by
  simp only [effort]
  simp only [dutyStep] at step
  -- One case for each tier of the error before the step, then one for each tier after it.
  repeat' split at step
  all_goals
    repeat' split
    all_goals omega

theorem dutyStep_short {size : Nat} (far : 150 < size) : 100 * dutyStep size < size := by
  simp only [dutyStep]
  repeat' split
  all_goals omega

def offset (c : FanChannel) (curve : Nat → Nat) : Int := c.gap (curve c.duty)

structure Underway (c : FanChannel) (curve : Nat → Nat) : Prop where
  enabled : c.enabled = true
  mode : c.mode = .rpm
  duty : c.duty ≤ 100
  lock : c.status = .locked → c.lastError.natAbs ≤ 150 ∧ (c.offset curve).natAbs ≤ 150

/-- All the duty that there is leaves the fan too slow, or none leaves it too fast. -/
def Saturated (c : FanChannel) (curve : Nat → Nat) : Prop :=
  (c.duty = 100 ∧ 150 < c.offset curve) ∨ (c.duty = 0 ∧ c.offset curve < -150)

inductive Rests (c : FanChannel) (curve : Nat → Nat) : Prop where
  | locked (status : c.status = .locked) (near : (c.offset curve).natAbs ≤ 150)
  | frustrated (status : c.status = .frustrated) (saturated : c.Saturated curve)

def remaining (c : FanChannel) (curve : Nat → Nat) : Nat :=
  effort (c.offset curve).natAbs (if 0 < c.offset curve then 100 - c.duty else c.duty)

variable {c d : FanChannel} {curve : Nat → Nat}

theorem Underway.controlled (u : c.Underway curve) : c.uncontrolled = false := by
  simp [uncontrolled, u.enabled, u.mode]

theorem offset_eq (enabled : d.enabled = c.enabled) (target : d.target = c.target)
    (duty : d.duty = c.duty) : d.offset curve = c.offset curve := by
  simp only [offset, gap, liveTarget, enabled, target, duty]

/-- A locked channel within the band stays locked, and one that comes into the band is locked there. -/
theorem Underway.locks (u : c.Underway curve) (near : (c.offset curve).natAbs ≤ 150) :
    ∃ last : Int, last.natAbs ≤ 150 ∧
      c.steered 150 (curve c.duty) = { c with lastError := last, status := .locked } := by
  have word : min 150 maxSigned = 150 := rfl
  have within : (c.speedError (curve c.duty)).natAbs ≤ 150 := by
    by_cases locked : c.status = .locked
    · rw [speedError_locked locked]
      exact damped_within (u.lock locked).1 (Nat.lt_of_le_of_lt near (by decide))
    · rw [speedError_unlocked locked]
      exact near
  exact ⟨_, within, by rw [steered_of_controlled u.controlled, adjusted_within (by rwa [word])]⟩

theorem Underway.steered_far (u : c.Underway curve) (far : 150 < (c.offset curve).natAbs) :
    c.steered 150 (curve c.duty) = c.adjusted 150 (c.offset curve) := by
  have unlocked : c.status ≠ .locked := fun locked => Nat.not_lt.2 (u.lock locked).2 far
  rw [steered_of_controlled u.controlled, speedError_unlocked unlocked]
  rfl

theorem band_word : ((min 150 maxSigned : Nat) : Int) = 150 := rfl

theorem Underway.saturates (u : c.Underway curve) (saturated : c.Saturated curve) :
    c.steered 150 (curve c.duty) =
      { c with lastError := c.offset curve, status := .frustrated } := by
  rcases saturated with ⟨full, low⟩ | ⟨least, high⟩
  · rw [u.steered_far (by omega), adjusted_low (by rwa [band_word]), if_pos (Nat.le_of_eq full.symm)]
  · rw [u.steered_far (by omega), adjusted_high (by rwa [band_word]), if_pos least]

theorem Underway.speeds_up (u : c.Underway curve) (low : 150 < c.offset curve)
    (room : c.duty < 100) : c.steered 150 (curve c.duty) =
      { c with
        lastError := c.offset curve
        status := .changing
        duty := min (c.duty + dutyStep (c.offset curve).natAbs) 100 } := by
  rw [u.steered_far (by omega), adjusted_low (by rwa [band_word]), if_neg (Nat.not_le.2 room)]

theorem Underway.slows_down (u : c.Underway curve) (high : c.offset curve < -150)
    (room : 0 < c.duty) : c.steered 150 (curve c.duty) =
      { c with
        lastError := c.offset curve
        status := .changing
        duty := c.duty - dutyStep (c.offset curve).natAbs } := by
  rw [u.steered_far (by omega), adjusted_high (by rwa [band_word]), if_neg (Nat.ne_of_gt room)]

def Moves (c d : FanChannel) (curve : Nat → Nat) (slope : Nat) : Prop :=
  let step := dutyStep (c.offset curve).natAbs
  (150 < c.offset curve ∧ c.duty < 100 ∧ d.duty = min (c.duty + step) 100 ∧
    d.offset curve ≤ c.offset curve ∧ c.offset curve ≤ d.offset curve + (slope * step : Nat)) ∨
  (c.offset curve < -150 ∧ 0 < c.duty ∧ d.duty = c.duty - step ∧
    c.offset curve ≤ d.offset curve ∧ d.offset curve ≤ c.offset curve + (slope * step : Nat))

theorem offset_gentle {slope : Nat} (gentle : Gentle curve slope)
    (target : d.liveTarget = c.liveTarget) (step : Nat) (up : c.duty ≤ d.duty)
    (near : d.duty ≤ c.duty + step) (inside : d.duty ≤ 100) :
    d.offset curve ≤ c.offset curve ∧
      c.offset curve ≤ d.offset curve + (slope * step : Nat) := by
  obtain ⟨more, rise⟩ := Nat.exists_eq_add_of_le up
  obtain ⟨low, high⟩ := gentle.between c.duty more (by omega)
  have most : slope * more ≤ slope * step := Nat.mul_le_mul_left slope (by omega)
  simp only [offset, gap, target, rise]
  omega

theorem Underway.of_unlocked (enabled : c.enabled = true) (mode : c.mode = .rpm) (duty : c.duty ≤ 100)
    (unlocked : c.status ≠ .locked) : c.Underway curve :=
  ⟨enabled, mode, duty, fun locked => absurd locked unlocked⟩

theorem Underway.turns {slope : Nat} (gentle : Gentle curve slope) (u : c.Underway curve) :
    let d := c.steered 150 (curve c.duty)
    d.Underway curve ∧ ((d.duty = c.duty ∧ d.Rests curve) ∨ c.Moves d curve slope) := by
  intro d
  obtain ⟨enabled, mode, target⟩ := c.steered_keeps 150 (curve c.duty)
  have live : d.liveTarget = c.liveTarget := by simp only [liveTarget, d, enabled, target]
  have on : d.enabled = true := enabled.trans u.enabled
  have rpm : d.mode = .rpm := mode.trans u.mode
  let size := (c.offset curve).natAbs
  by_cases near : size ≤ 150
  · obtain ⟨last, within, step⟩ := u.locks near
    have duty : d.duty = c.duty := by simp only [d, step]
    have offset : (d.offset curve).natAbs ≤ 150 := by rwa [offset_eq enabled target duty]
    have status : d.status = .locked := by simp only [d, step]
    refine ⟨⟨on, rpm, duty ▸ u.duty, fun _ => ⟨?_, offset⟩⟩, .inl ⟨duty, .locked status offset⟩⟩
    simpa only [d, step] using within
  · by_cases saturated : c.Saturated curve
    · have step := u.saturates saturated
      have duty : d.duty = c.duty := by simp only [d, step]
      have status : d.status = .frustrated := by simp only [d, step]
      have saturated' : d.Saturated curve := by rwa [Saturated, duty, offset_eq enabled target duty]
      exact ⟨.of_unlocked on rpm (duty ▸ u.duty) (by simp [status]),
        .inl ⟨duty, .frustrated status saturated'⟩⟩
    · have bound := u.duty
      by_cases low : 150 < c.offset curve
      · have room : c.duty ≠ 100 := fun full => saturated (.inl ⟨full, low⟩)
        have step := u.speeds_up low (by omega)
        have duty : d.duty = min (c.duty + dutyStep size) 100 := by simp only [d, step, size]
        have status : d.status = .changing := by simp only [d, step]
        obtain ⟨below, above⟩ := offset_gentle gentle live (dutyStep size) (by omega) (by omega) (by omega)
        exact ⟨.of_unlocked on rpm (by omega) (by simp [status]),
          .inr (.inl ⟨low, by omega, duty, below, above⟩)⟩
      · have high : c.offset curve < -150 := by omega
        have room : c.duty ≠ 0 := fun least => saturated (.inr ⟨least, high⟩)
        have step := u.slows_down high (by omega)
        have duty : d.duty = c.duty - dutyStep size := by simp only [d, step, size]
        have status : d.status = .changing := by simp only [d, step]
        obtain ⟨below, above⟩ :=
          offset_gentle gentle live.symm (dutyStep size) (by omega) (by omega) (by omega)
        exact ⟨.of_unlocked on rpm (by omega) (by simp [status]),
          .inr (.inr ⟨high, by omega, duty, below, above⟩)⟩

theorem Moves.remaining_lt (h : c.Moves d curve 160) (inside : c.duty ≤ 100) :
    d.remaining curve < c.remaining curve := by
  simp only [remaining]
  rcases h with ⟨low, room, duty, below, above⟩ | ⟨high, room, duty, below, above⟩
  · rw [if_pos (show 0 < c.offset curve by omega)]
    refine effort_lt (by omega) (by omega) (by split <;> omega) ?_
    split <;> omega
  · rw [if_neg (show ¬ 0 < c.offset curve by omega)]
    refine effort_lt (by omega) (by omega) (by split <;> omega) ?_
    split <;> omega

/-- Along a curve that is gentle enough no step carries the fan across its target. -/
theorem Moves.sign_eq (h : c.Moves d curve 100) : (d.offset curve).sign = (c.offset curve).sign := by
  rcases h with ⟨low, room, duty, below, above⟩ | ⟨high, room, duty, below, above⟩
  · have short := dutyStep_short (show 150 < (c.offset curve).natAbs by omega)
    rw [Int.sign_eq_one_of_pos (by omega), Int.sign_eq_one_of_pos (by omega)]
  · have short := dutyStep_short (show 150 < (c.offset curve).natAbs by omega)
    rw [Int.sign_eq_neg_one_of_neg (by omega), Int.sign_eq_neg_one_of_neg (by omega)]

theorem Rests.stays {slope : Nat} (h : c.Rests curve) (moves : c.Moves d curve slope) : False := by
  cases h with
  | locked status near => rcases moves with ⟨low, _⟩ | ⟨high, _⟩ <;> omega
  | frustrated status saturated =>
    rcases saturated with ⟨full, low⟩ | ⟨least, high⟩ <;>
      rcases moves with ⟨low', room, _⟩ | ⟨high', room, _⟩ <;> omega

theorem Rests.status_eq (h : c.Rests curve) (h' : d.Rests curve)
    (same : d.offset curve = c.offset curve) : d.status = c.status := by
  cases h with
  | locked status near =>
    cases h' with
    | locked status' near' => rw [status, status']
    | frustrated status' saturated => rcases saturated with ⟨_, low⟩ | ⟨_, high⟩ <;> omega
  | frustrated status saturated =>
    cases h' with
    | locked status' near' => rcases saturated with ⟨_, low⟩ | ⟨_, high⟩ <;> omega
    | frustrated status' saturated' => rw [status, status']

/-- The error is the difference of the speeds, but for a fan faster than a signed word can tell. -/
theorem offset_cases (enabled : c.enabled = true) (target : c.target ≤ 65535) :
    c.offset curve = (c.target : Int) - curve c.duty ∨
      (c.offset curve < -150 ∧ c.target + 150 < curve c.duty) := by
  simp only [offset, gap, liveTarget, enabled, ↓reduceIte, maxSigned]
  omega

theorem sign_offset (enabled : c.enabled = true) (target : c.target ≤ 65535) :
    (c.offset curve).sign = ((c.target : Int) - curve c.duty).sign := by
  rcases offset_cases enabled target with same | ⟨high, fast⟩
  · rw [same]
  · rw [Int.sign_eq_neg_one_of_neg (by omega), Int.sign_eq_neg_one_of_neg (by omega)]

theorem Rests.speed (h : c.Rests curve) (enabled : c.enabled = true) (target : c.target ≤ 65535) :
    (c.status = .locked ∧ ((c.target : Int) - curve c.duty).natAbs ≤ 150) ∨
      (c.status = .frustrated ∧ c.duty = 100 ∧ curve c.duty + 150 < c.target) ∨
      (c.status = .frustrated ∧ c.duty = 0 ∧ c.target + 150 < curve c.duty) := by
  have error : c.offset curve = _ ∨ _ := offset_cases enabled target
  cases h with
  | locked status near => exact .inl ⟨status, by omega⟩
  | frustrated status saturated =>
    rcases saturated with ⟨full, low⟩ | ⟨least, high⟩
    · exact .inr (.inl ⟨status, full, by omega⟩)
    · exact .inr (.inr ⟨status, least, by omega⟩)

end FanChannel

namespace FanBank

variable {σ : Type} [Board σ] {b : FanBank} {found : Nat → FanSecond σ} {fan : FanId}
  {c d : FanChannel} {curve : Nat → Nat}

/-- Each tick measures the speed that the duty of the fan makes on the curve. -/
def OnCurve (b : FanBank) (found : Nat → FanSecond σ) (fan : FanId) (curve : Nat → Nat) : Prop :=
  ∀ n d, (b.ticked found n).channel? fan = some d → b.speedAt found fan n = curve d.duty

theorem OnCurve.next (on : b.OnCurve found fan curve) (tachs : Tachometers σ)
    (band : b.config.band = 150) {n : Nat} (hd : (b.ticked found n).channel? fan = some d) :
    (b.ticked found (n + 1)).channel? fan = some (d.steered 150 (curve d.duty)) := by
  rw [ticked_succ tachs hd, band, on n d hd]

theorem OnCurve.comes_to_rest (on : b.OnCurve found fan curve) (tachs : Tachometers σ)
    (band : b.config.band = 150) (gentle : Gentle curve 160) (steps n : Nat)
    (hd : (b.ticked found n).channel? fan = some d) (u : d.Underway curve)
    (few : d.remaining curve ≤ steps) :
    ∃ m e, m ≤ n + steps + 1 ∧ (b.ticked found m).channel? fan = some e ∧ e.Underway curve ∧
      e.Rests curve := by
  induction steps generalizing n d with
  | zero =>
    obtain ⟨u', ⟨_, rests⟩ | moves⟩ := u.turns gentle
    · exact ⟨n + 1, _, Nat.le_refl _, on.next tachs band hd, u', rests⟩
    · exact absurd (moves.remaining_lt u.duty) (by omega)
  | succ steps ih =>
    obtain ⟨u', ⟨_, rests⟩ | moves⟩ := u.turns gentle
    · exact ⟨n + 1, _, by omega, on.next tachs band hd, u', rests⟩
    · have fewer := moves.remaining_lt u.duty
      obtain ⟨m, e, soon, he, u'', rests⟩ := ih (n + 1) (on.next tachs band hd) u' (by omega)
      exact ⟨m, e, by omega, he, u'', rests⟩

theorem OnCurve.stays (on : b.OnCurve found fan curve) (tachs : Tachometers σ)
    (band : b.config.band = 150) {slope : Nat} (gentle : Gentle curve slope) {n : Nat}
    (hd : (b.ticked found n).channel? fan = some d) (u : d.Underway curve) (rests : d.Rests curve)
    (more : Nat) : ∃ e, (b.ticked found (n + more)).channel? fan = some e ∧ e.Underway curve ∧
      e.Rests curve ∧ e.status = d.status ∧ e.duty = d.duty := by
  induction more with
  | zero => exact ⟨d, hd, u, rests, rfl, rfl⟩
  | succ more ih =>
    obtain ⟨e, he, u', rests', status, duty⟩ := ih
    obtain ⟨enabled, _, target⟩ := e.steered_keeps 150 (curve e.duty)
    obtain ⟨u'', ⟨duty', rests''⟩ | moves⟩ := u'.turns gentle
    · have status' := rests'.status_eq rests'' (FanChannel.offset_eq enabled target duty')
      exact ⟨_, on.next tachs band he, u'', rests'', status'.trans status, duty'.trans duty⟩
    · exact (rests'.stays moves).elim

theorem OnCurve.sign_eq (on : b.OnCurve found fan curve) (tachs : Tachometers σ)
    (band : b.config.band = 150) (gentle : Gentle curve 100) (hc : b.channel? fan = some c)
    (u : c.Underway curve) (n : Nat) : ∃ d, (b.ticked found n).channel? fan = some d ∧
      d.Underway curve ∧ (d.offset curve).sign = (c.offset curve).sign := by
  induction n with
  | zero => exact ⟨c, hc, u, rfl⟩
  | succ n ih =>
    obtain ⟨d, hd, u', sign⟩ := ih
    obtain ⟨enabled, _, target⟩ := d.steered_keeps 150 (curve d.duty)
    obtain ⟨u'', ⟨duty, _⟩ | moves⟩ := u'.turns gentle
    · exact ⟨_, on.next tachs band hd, u'', by rw [FanChannel.offset_eq enabled target duty, sign]⟩
    · exact ⟨_, on.next tachs band hd, u'', moves.sign_eq.trans sign⟩

/-- Along any curve on which one percent of duty makes at most 160 of speed, the control loop comes to
rest within 150 ticks: locked onto its target, or at an end of its duty and still too slow or too fast.
There it stays. Where one percent makes at most 100, the speed does not cross the target on the way. -/
theorem loop_settles (tachs : Tachometers σ) (b : FanBank) (fan : FanId) (c : FanChannel)
    (hc : b.channel? fan = some c) (band : b.config.band = 150) (enabled : c.enabled = true)
    (mode : c.mode = .rpm) (unlocked : c.status ≠ .locked) (duty : c.duty ≤ 100)
    (target : c.target ≤ 65535) (curve : Nat → Nat) (gentle : Gentle curve 160)
    (found : Nat → FanSecond σ) (on : b.OnCurve found fan curve) :
    (∃ n status duty, n ≤ 150 ∧
      (∀ m, n ≤ m → ∃ d, (b.ticked found m).channel? fan = some d ∧ d.status = status ∧
        d.duty = duty) ∧
      ((status = .locked ∧ ((c.target : Int) - curve duty).natAbs ≤ 150) ∨
        (status = .frustrated ∧ duty = 100 ∧ curve duty + 150 < c.target) ∨
        (status = .frustrated ∧ duty = 0 ∧ c.target + 150 < curve duty))) ∧
    (Gentle curve 100 → ∀ n, ∃ d, (b.ticked found n).channel? fan = some d ∧
      ((c.target : Int) - curve d.duty).sign = ((c.target : Int) - curve c.duty).sign) := by
  have u : c.Underway curve := .of_unlocked enabled mode duty unlocked
  have aim : ∀ n d, (b.ticked found n).channel? fan = some d → d.target = c.target := by
    intro n d hd
    obtain ⟨e, he, _, _, same⟩ := ticked_keeps tachs found hc n
    obtain rfl := Option.some.inj (hd.symm.trans he)
    exact same
  refine ⟨?_, fun gentler n => ?_⟩
  · have few : c.remaining curve ≤ 132 := FanChannel.effort_le (by split <;> omega)
    obtain ⟨n, d, soon, hd, u', rests⟩ := on.comes_to_rest tachs band gentle 132 0 hc u few
    have speed := rests.speed u'.enabled (aim n d hd ▸ target)
    rw [aim n d hd] at speed
    refine ⟨n, d.status, d.duty, by omega, fun m later => ?_, speed⟩
    obtain ⟨more, rfl⟩ := Nat.exists_eq_add_of_le later
    obtain ⟨e, he, _, _, status, still⟩ := on.stays tachs band gentle hd u' rests more
    exact ⟨e, he, status, still⟩
  · obtain ⟨d, hd, u', sign⟩ := on.sign_eq tachs band gentler hc u n
    rw [FanChannel.sign_offset u'.enabled (aim n d hd ▸ target), aim n d hd,
      FanChannel.sign_offset enabled target] at sign
    exact ⟨d, hd, sign⟩

def periodAt (duty : Nat) : Nat := 1000000 / (100 + 3 * duty)

def risingCurve (duty : Nat) : Nat := (FanConfig.ofTicks 1000000).rpmOfPeriod (periodAt duty)

def rising : Nat → FanChannel
  | 0 => { stuck with duty := 0, target := 9000 }
  | n + 1 => (rising n).steered 150 (risingCurve (rising n).duty)

def risingSecond (n : Nat) : FanSecond Bench :=
  ⟨⟨Carrier.bench.onTach ⟨0⟩ fun t => { t with period := periodAt (rising n).duty }, Journal.fresh⟩,
    ⟨n * 1000000⟩⟩

def risingBank : FanBank := ⟨[rising 0], FanConfig.ofTicks 1000000⟩

theorem rising_channel (n : Nat) :
    (risingBank.ticked risingSecond n).channel? ⟨0⟩ = some (rising n) ∧
      risingBank.speedAt risingSecond ⟨0⟩ n = risingCurve (rising n).duty := by
  have first : risingBank.channel? ⟨0⟩ = some (rising 0) := rfl
  have speed : ∀ n, (risingBank.ticked risingSecond n).channel? ⟨0⟩ = some (rising n) →
      risingBank.speedAt risingSecond ⟨0⟩ n = risingCurve (rising n).duty := by
    intro n hn
    obtain ⟨d, hd, on, _⟩ := ticked_keeps Bench.tachometers risingSecond first n
    obtain rfl := Option.some.inj (hn.symm.trans hd)
    have period : ((risingSecond n).plant.tach ⟨0⟩).period = periodAt (rising n).duty := rfl
    rw [speedAt_of_channel hn, period, FanChannel.measured_on on]
    rfl
  induction n with
  | zero => exact ⟨first, speed 0 first⟩
  | succ n ih =>
    obtain ⟨hn, measured⟩ := ih
    have next := ticked_succ Bench.tachometers hn
    rw [measured] at next
    exact ⟨next, speed (n + 1) next⟩

theorem carrier_settles :
    risingBank.channel? ⟨0⟩ = some (rising 0) ∧ Gentle risingCurve 100 ∧
      risingBank.OnCurve risingSecond ⟨0⟩ risingCurve ∧
      (∃ n duty, n ≤ 150 ∧ ((9000 : Int) - risingCurve duty).natAbs ≤ 150 ∧
        ∀ m, n ≤ m → ∃ d, (risingBank.ticked risingSecond m).channel? ⟨0⟩ = some d ∧
          d.status = .locked ∧ d.duty = duty) ∧
      ∀ n, ∃ d, (risingBank.ticked risingSecond n).channel? ⟨0⟩ = some d ∧
        ((9000 : Int) - risingCurve d.duty).sign = 1 := by
  have gentler : Gentle risingCurve 100 := by
    simp only [Gentle]
    decide +kernel
  have gentle : Gentle risingCurve 160 := fun duty inside =>
    ⟨(gentler duty inside).1, Nat.le_trans (gentler duty inside).2 (by omega)⟩
  have on : risingBank.OnCurve risingSecond ⟨0⟩ risingCurve := by
    intro n d hd
    obtain ⟨hn, measured⟩ := rising_channel n
    obtain rfl := Option.some.inj (hd.symm.trans hn)
    exact measured
  obtain ⟨⟨n, status, duty, soon, stays, locked | slow | fast⟩, sign⟩ :=
    loop_settles Bench.tachometers risingBank ⟨0⟩ (rising 0) rfl rfl rfl rfl (by decide) (by decide)
      (by decide) risingCurve gentle risingSecond on
  · obtain ⟨rfl, near⟩ := locked
    refine ⟨rfl, gentler, on, ⟨n, duty, soon, near, stays⟩, fun n => ?_⟩
    obtain ⟨d, hd, same⟩ := sign gentler n
    exact ⟨d, hd, same.trans (by decide)⟩
  · obtain ⟨_, rfl, low⟩ := slow
    exact absurd low (by decide)
  · obtain ⟨_, rfl, high⟩ := fast
    exact absurd high (by decide)

end FanBank

end BoardWarden
