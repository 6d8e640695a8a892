import BoardWarden.Proofs.Fan.Room
import BoardWarden.Proofs.Word

set_option autoImplicit false

/-!
What the fans compute, on machine words. Each function on words has the name of the one it follows, with
a question mark.
-/

namespace BoardWarden

open Settings (FanLimits)

namespace Word

def signed (number : Int) : Option Int := if FitsSigned number then some number else none

theorem signed_of {number : Int} (fits : FitsSigned number) : signed number = some number :=
  if_pos fits

end Word

namespace TachCapture

def distance? (previous counter reload : Nat) : Option Nat :=
  if previous < counter then Word.minus counter previous
  else do
    let sum ← Word.unsigned (reload + counter)
    let counts ← Word.unsigned (sum + 1)
    Word.minus counts previous

def capture? (t : TachCapture) (counter reload : Nat) : Option TachCapture := do
  let period ← if t.latched then distance? t.previous counter reload else some t.period
  return { previous := counter, latched := true, period, edges := (t.edges + 1) % 4294967296 }

theorem distance?_eq {previous counter reload : Nat} (inside : counter ≤ fullScale)
    (scale : reload ≤ fullScale) : distance? previous counter reload =
      if previous < counter ∨ previous ≤ reload + counter + 1 then
        some (distance previous counter reload)
      else none := by
  simp only [fullScale] at inside scale
  simp only [distance?, distance, Word.minus]
  by_cases rises : previous < counter
  · rw [if_pos rises, if_pos rises, if_pos (Nat.le_of_lt rises), if_pos (.inl rises)]
  · rw [if_neg rises, if_neg rises]
    simp only [Option.bind_eq_bind, rises, false_or]
    rw [Word.unsigned_of (by omega), Option.bind_some, Word.unsigned_of (by omega), Option.bind_some]

/-- The capture before was of a counter that its timer does not reach any more. -/
example : distance? 60000 50 100 = none := by decide

def mark (t : TachCapture) : Option Nat := if t.latched then some t.previous else none

theorem capture?_eq (t : TachCapture) {counter reload : Nat} (inside : counter ≤ fullScale)
    (scale : reload ≤ fullScale) : t.capture? counter reload =
      if t.captureFits counter reload then some (t.capture counter reload) else none := by
  simp only [capture?, capture, captureFits, distance?_eq inside scale]
  by_cases latched : t.latched = true
  · simp only [latched, Bool.not_true, Bool.false_or, Bool.or_eq_true, decide_eq_true_eq, ↓reduceIte]
    split <;> rfl
  · simp only [latched, Bool.false_eq_true, ↓reduceIte]
    rfl

/-- Where the timer still reaches the counter of the edge before, the distance to it is no less than
zero. -/
theorem captureFits_of_mark {t : TachCapture} {reload : Nat}
    (marked : ∀ n, t.mark = some n → n ≤ reload) (counter : Nat) :
    t.captureFits counter reload = true := by
  simp only [captureFits, Bool.or_eq_true, Bool.not_eq_true', decide_eq_true_eq]
  cases latched : t.latched with
  | false => exact .inl (.inl rfl)
  | true =>
    have reached : t.previous ≤ reload := marked _ (if_pos latched)
    exact .inr (by omega)

end TachCapture

namespace FanConfig

def rpmOfPeriod? (c : FanConfig) (period : Nat) : Option Nat := do
  let divisor ← Word.unsigned (c.tachPrescaler + 1)
  let counts ← Word.quotient c.tachClock divisor
  let captures ← Word.quotient counts period
  let seconds ← Word.quotient 60 (max c.pulsesPerRev 1)
  let perMinute ← Word.unsigned (captures * seconds)
  Word.unsigned (perMinute * c.captureDivider)

/-- The timing that the program is built with: of a timer of its own, or of a clock of at most a
million ticks in a second. -/
def Timed (c : FanConfig) : Prop := c = builtIn ∨ ∃ ticks, ticks ≤ 1000000 ∧ c = ofTicks ticks

variable {c : FanConfig}

theorem Timed.roomy (timed : c.Timed) : c.Roomy := by
  rcases timed with rfl | ⟨ticks, slow, rfl⟩
  · decide
  · have counts : (ofTicks ticks).countsPerSecond / 1 * (60 / max (ofTicks ticks).pulsesPerRev 1) =
        ticks * 30 := by
      have counts : (ofTicks ticks).countsPerSecond = ticks := Nat.div_one ticks
      have pulses : max (ofTicks ticks).pulsesPerRev 1 = 2 := rfl
      rw [counts, pulses, Nat.div_one]
    have fastest : (ofTicks ticks).rpmOfPeriod 1 = ticks * 30 := by
      rw [rpmOfPeriod, counts]
      exact Nat.mul_one _
    refine ⟨Nat.zero_le _, ?_, ?_⟩
    · simp only [speedFits_iff, counts, fastest, maxUnsigned]
      omega
    · have band : (ofTicks ticks).band = 150 := rfl
      simp only [fastest, band, FanLimits.ceiling, maxSigned]
      omega

theorem rpmOfPeriod?_eq (prescaler : c.tachPrescaler ≤ 65535) {period : Nat} (turns : period ≠ 0) :
    c.rpmOfPeriod? period = if c.speedFits period then some (c.rpmOfPeriod period) else none := by
  simp only [rpmOfPeriod?, Option.bind_eq_bind]
  rw [Word.unsigned_of (by omega), Option.bind_some, Word.quotient_of (by omega), Option.bind_some,
    Word.quotient_of turns, Option.bind_some, Word.quotient_of (by omega), Option.bind_some]
  change ((Word.unsigned (c.countsPerSecond / period * (60 / max c.pulsesPerRev 1))).bind fun
    perMinute => Word.unsigned (perMinute * c.captureDivider)) = _
  by_cases fits : c.speedFits period = true
  · obtain ⟨perMinute, rpm⟩ := speedFits_iff.1 fits
    rw [if_pos fits, Word.unsigned_of perMinute, Option.bind_some]
    exact Word.unsigned_of rpm
  · rw [if_neg fits]
    by_cases perMinute : c.countsPerSecond / period * (60 / max c.pulsesPerRev 1) ≤ maxUnsigned
    · rw [Word.unsigned_of perMinute, Option.bind_some]
      exact if_neg fun rpm => fits (speedFits_iff.2 ⟨perMinute, rpm⟩)
    · have wide : Word.unsigned (c.countsPerSecond / period * (60 / max c.pulsesPerRev 1)) = none :=
        if_neg perMinute
      rw [wide, Option.bind_none]

end FanConfig

namespace FanChannel

def measured? (c : FanChannel) (config : FanConfig) (period : Nat) : Option Nat :=
  if !c.enabled || period == 0 then some 0 else config.rpmOfPeriod? period

def rpmOfPercent? (l : FanLimits) (percent : Nat) : Option Nat :=
  if percent = 0 then some 0
  else do
    let above ← Word.minus (min percent 100) 1
    let below ← Word.minus 100 (min percent 100)
    let high ← Word.wide (above * l.max)
    let low ← Word.wide (below * l.min)
    let sum ← Word.wide (high + low)
    let rpm ← Word.quotient sum 99
    return min rpm 4294967295

def percentOfRpm? (l : FanLimits) (rpm : Nat) : Option Nat :=
  if rpm = 0 then some 0
  else do
    let span := max (l.max - l.min) 1
    let rise ← Word.minus (min (max rpm l.min) (max l.max l.min)) l.min
    let scaled ← Word.wide (rise * 99)
    let half ← Word.quotient span 2
    let sum ← Word.wide (scaled + half)
    let steps ← Word.quotient sum span
    let percent ← Word.wide (steps + 1)
    return min percent 100

def rpmForDemand? (l : FanLimits) (actual percent : Nat) : Option Nat := do
  let rpm ← rpmOfPercent? l percent
  let speed ← Word.wide (actual * 10)
  let least ← Word.wide (l.min * 9)
  return if rpm != 0 && decide (speed < least) && decide (rpm < l.start) then l.start else rpm

def follow? (c : FanChannel) (actual percent : Nat) : Option (Except Halt FanChannel) :=
  if c.followsDemand then (rpmForDemand? c.limits actual percent).map c.setTarget
  else some (.ok c)

def speedError? (c : FanChannel) (actual : Nat) : Option Int := do
  let error ← Word.signed (c.gap actual)
  if c.status = .locked then
    let past ← Word.signed (99 * c.lastError)
    let sum ← Word.signed (past + error)
    return sum.tdiv 100
  else return error

def correction? (band : Nat) (error : Int) (duty : Nat) : Option Correction :=
  (Word.signed (-(band : Int))).map fun _ => correction band error duty

variable {c : FanChannel} {config : FanConfig} {band : Nat}

theorem measured?_eq (prescaler : config.tachPrescaler ≤ 65535) (c : FanChannel) (period : Nat) :
    c.measured? config period =
      if c.measureFits config period then some (c.measured config period) else none := by
  simp only [measured?, measured, measureFits]
  by_cases still : (!c.enabled || period == 0) = true
  · simp only [still, ↓reduceIte, Bool.true_or]
  · have counted : period ≠ 0 := fun void => still (by simp [void])
    rw [if_neg still, if_neg still, FanConfig.rpmOfPeriod?_eq prescaler counted]
    simp only [Bool.eq_false_iff.2 still, Bool.false_or]

theorem measured?_of_roomy (roomy : config.Roomy) (c : FanChannel) (period : Nat) :
    c.measured? config period = some (c.measured config period) := by
  rw [measured?_eq roomy.prescaler, if_pos (measureFits_of_roomy roomy c period)]

theorem rpmOfPercent?_eq {l : FanLimits} (valid : l.valid = true) (percent : Nat) :
    rpmOfPercent? l percent = some (rpmOfPercent l percent) := by
  obtain ⟨order, _, ceiling⟩ := FanLimits.bounds valid
  simp only [rpmOfPercent?, rpmOfPercent]
  split
  · rfl
  · have high : (min percent 100 - 1) * l.max ≤ 100 * 65535 :=
      Nat.mul_le_mul (by omega) ceiling
    have low : (100 - min percent 100) * l.min ≤ 100 * 65535 :=
      Nat.mul_le_mul (by omega) (by omega)
    simp only [Option.bind_eq_bind]
    rw [Word.minus_of (by omega), Option.bind_some, Word.minus_of (by omega), Option.bind_some,
      Word.wide_of (by omega), Option.bind_some, Word.wide_of (by omega), Option.bind_some,
      Word.wide_of (by omega), Option.bind_some, Word.quotient_of (by decide), Option.bind_some]
    rfl

theorem percentOfRpm?_eq {l : FanLimits} (valid : l.valid = true) (rpm : Nat) :
    percentOfRpm? l rpm = some (percentOfRpm l rpm) := by
  obtain ⟨order, _, ceiling⟩ := FanLimits.bounds valid
  simp only [percentOfRpm?, percentOfRpm]
  split
  · rfl
  · have steps := Nat.div_le_self ((min (max rpm l.min) (max l.max l.min) - l.min) * 99 +
      max (l.max - l.min) 1 / 2) (max (l.max - l.min) 1)
    simp only [Option.bind_eq_bind]
    rw [Word.minus_of (by omega), Option.bind_some, Word.wide_of (by omega), Option.bind_some,
      Word.quotient_of (by decide), Option.bind_some, Word.wide_of (by omega), Option.bind_some,
      Word.quotient_of (by omega), Option.bind_some, Word.wide_of (by omega), Option.bind_some]
    rfl

theorem rpmForDemand?_eq {l : FanLimits} (valid : l.valid = true) {actual : Nat}
    (speed : actual ≤ maxSigned) (percent : Nat) :
    rpmForDemand? l actual percent = some (rpmForDemand l actual percent) := by
  obtain ⟨order, _, ceiling⟩ := FanLimits.bounds valid
  simp only [maxSigned] at speed
  simp only [rpmForDemand?, rpmForDemand, tooSlow, Option.bind_eq_bind]
  rw [rpmOfPercent?_eq valid, Option.bind_some, Word.wide_of (by omega), Option.bind_some,
    Word.wide_of (by omega), Option.bind_some]
  rfl

theorem InRange.follow?_eq (h : c.InRange band) {actual : Nat} (speed : actual ≤ maxSigned)
    (percent : Nat) : c.follow? actual percent = some (c.follow actual percent) := by
  simp only [follow?, FanChannel.follow]
  split
  · rw [rpmForDemand?_eq h.limits speed, Option.map_some]
  · rfl

theorem gap_fits (c : FanChannel) (actual : Nat) : FitsSigned (c.gap actual) := by
  simp only [gap, FitsSigned]
  omega

theorem speedError?_eq (c : FanChannel) (actual : Nat) :
    c.speedError? actual = if c.errorFits actual then some (c.speedError actual) else none := by
  simp only [speedError?, Option.bind_eq_bind]
  rw [Word.signed_of (c.gap_fits actual), Option.bind_some]
  by_cases locked : c.status = .locked
  · rw [if_pos locked, speedError_locked locked]
    simp only [errorFits, Word.signed, locked, bne_self_eq_false, Bool.false_or, decide_eq_true_eq]
    by_cases past : FitsSigned (99 * c.lastError)
    · simp only [past, true_and, ↓reduceIte, Option.bind_some]
      split <;> rfl
    · simp only [past, false_and, ↓reduceIte, Option.bind_none]
  · rw [if_neg locked, speedError_unlocked locked, if_pos (by simp [errorFits, locked])]
    rfl

/-- A lock is kept at small errors only: from this one the average would not fit. -/
example : ({ fresh FanLimits.builtIn with status := .locked, lastError := 21691755 }).speedError? 0 =
    none := by decide

theorem correction?_eq {band : Nat} (word : band ≤ maxSigned) (error : Int) (duty : Nat) :
    correction? band error duty = some (correction band error duty) := by
  simp only [maxSigned] at word
  rw [correction?, Word.signed_of (.of_natAbs (by omega)), Option.map_some]

end FanChannel

end BoardWarden
