import BoardWarden.Fan.Bank

set_option autoImplicit false

namespace BoardWarden

open Settings (FanLimits)

def Settings.FanLimits.span (l : FanLimits) : Nat := l.max - l.min

namespace FanChannel

def rise (span step : Nat) : Nat := step * span / 99

def nearestStep (span above : Nat) : Nat := (above * 99 + span / 2) / span

theorem rise_bounds (span step : Nat) :
    99 * rise span step ≤ step * span ∧ step * span < 99 * rise span step + 99 := by
  have cut := Nat.div_add_mod (step * span) 99
  have rest := Nat.mod_lt (step * span) (show 99 > 0 by decide)
  simp only [rise]
  omega

theorem rise_mono (span : Nat) {step step' : Nat} (h : step ≤ step') :
    rise span step ≤ rise span step' :=
  Nat.div_le_div_right (Nat.mul_le_mul_right span h)

theorem rise_top (span : Nat) : rise span 99 = span := Nat.mul_div_cancel_left span (by decide)

theorem nearestStep_bounds {span : Nat} (wide : 0 < span) (above : Nat) :
    nearestStep span above * span ≤ above * 99 + span / 2 ∧
      above * 99 + span / 2 < nearestStep span above * span + span := by
  refine ⟨Nat.div_mul_le_self _ _, ?_⟩
  have beyond : above * 99 + span / 2 < span * (nearestStep span above + 1) :=
    Nat.lt_mul_div_succ _ wide
  rwa [Nat.mul_comm span, Nat.succ_mul] at beyond

theorem nearestStep_mono (span : Nat) {above above' : Nat} (h : above ≤ above') :
    nearestStep span above ≤ nearestStep span above' :=
  Nat.div_le_div_right (by omega)

theorem nearestStep_le {span above : Nat} (wide : 0 < span) (inside : above ≤ span) :
    nearestStep span above ≤ 99 := by
  have bound : above * 99 + span / 2 < 100 * span := by omega
  exact Nat.le_of_lt_succ ((Nat.div_lt_iff_lt_mul wide).2 bound)

/-- The nearest step misses by half a step, and cutting its speed by less than one more. -/
theorem rise_nearestStep {span : Nat} (wide : 0 < span) (above : Nat) :
    198 * ((rise span (nearestStep span above) : Int) - above).natAbs < span + 198 := by
  obtain ⟨low, high⟩ := nearestStep_bounds wide above
  obtain ⟨under, beyond⟩ := rise_bounds span (nearestStep span above)
  omega

theorem nearestStep_rise {span step : Nat} (wide : 196 ≤ span) :
    nearestStep span (rise span step) = step := by
  obtain ⟨under, beyond⟩ := rise_bounds span step
  have next : (step + 1) * span = step * span + span := Nat.succ_mul step span
  refine Nat.div_eq_of_lt_le ?_ ?_
  · omega
  · rw [next]
    omega

variable {l : FanLimits}

theorem rpmOfPercent_eq (order : l.min < l.max) (word : l.max ≤ 4294967295) {percent : Nat}
    (asked : percent ≠ 0) : rpmOfPercent l percent = l.min + rise l.span (min percent 100 - 1) := by
  obtain ⟨step, named⟩ : ∃ step, min percent 100 = step + 1 := ⟨min percent 100 - 1, by omega⟩
  obtain ⟨rest, whole⟩ : ∃ rest, 99 = step + rest := Nat.exists_eq_add_of_le (by omega)
  have top : l.max = l.min + l.span := by
    simp only [FanLimits.span]
    omega
  have left : 100 - (step + 1) = rest := by omega
  have sum : step * (l.min + l.span) + rest * l.min = step * l.span + l.min * 99 := by
    rw [whole, Nat.mul_add, Nat.mul_add, Nat.mul_comm l.min step, Nat.mul_comm l.min rest]
    omega
  have inside : rise l.span step ≤ l.span := by
    have below := rise_mono l.span (show step ≤ 99 by omega)
    rwa [rise_top] at below
  simp only [rpmOfPercent, asked, ↓reduceIte, named, Nat.add_sub_cancel, left]
  rw [top, sum, Nat.add_mul_div_right _ _ (by decide), Nat.add_comm]
  exact Nat.min_eq_left (by simp only [rise] at inside; omega)

theorem percentOfRpm_eq (order : l.min < l.max) {rpm : Nat} (turns : rpm ≠ 0) :
    percentOfRpm l rpm = nearestStep l.span (min rpm l.max - l.min) + 1 := by
  have wide : 0 < l.span := Nat.sub_pos_of_lt order
  have span : max (l.max - l.min) 1 = l.span := Nat.max_eq_left wide
  have above : min (max rpm l.min) (max l.max l.min) - l.min = min rpm l.max - l.min := by omega
  have inside : min rpm l.max - l.min ≤ l.span := by
    simp only [FanLimits.span]
    omega
  simp only [percentOfRpm, turns, ↓reduceIte, span, above]
  exact Nat.min_eq_left (Nat.succ_le_succ (nearestStep_le wide inside))

theorem rpmOfPercent_mono (order : l.min < l.max) (word : l.max ≤ 4294967295) {percent percent' : Nat}
    (h : percent ≤ percent') : rpmOfPercent l percent ≤ rpmOfPercent l percent' := by
  by_cases asked : percent = 0
  · simp [rpmOfPercent, asked]
  · rw [rpmOfPercent_eq order word asked, rpmOfPercent_eq order word (by omega)]
    exact Nat.add_le_add_left (rise_mono l.span (by omega)) l.min

theorem rpmOfPercent_one (order : l.min < l.max) (word : l.max ≤ 4294967295) :
    rpmOfPercent l 1 = l.min := by
  rw [rpmOfPercent_eq order word (by decide)]
  simp [rise]

theorem rpmOfPercent_hundred (order : l.min < l.max) (word : l.max ≤ 4294967295) :
    rpmOfPercent l 100 = l.max := by
  rw [rpmOfPercent_eq order word (by decide)]
  refine (congrArg (l.min + ·) (rise_top l.span)).trans ?_
  simp only [FanLimits.span]
  omega

theorem percentOfRpm_mono (order : l.min < l.max) {rpm rpm' : Nat} (h : rpm ≤ rpm') :
    percentOfRpm l rpm ≤ percentOfRpm l rpm' := by
  by_cases turns : rpm = 0
  · simp [percentOfRpm, turns]
  · rw [percentOfRpm_eq order turns, percentOfRpm_eq order (by omega)]
    exact Nat.succ_le_succ (nearestStep_mono l.span (by omega))

theorem rpmOfPercent_percentOfRpm (order : l.min < l.max) (word : l.max ≤ 4294967295) {rpm : Nat}
    (low : l.min ≤ rpm) (high : rpm ≤ l.max) :
    198 * ((rpmOfPercent l (percentOfRpm l rpm) : Int) - rpm).natAbs < l.span + 198 := by
  by_cases turns : rpm = 0
  · simp [percentOfRpm, rpmOfPercent, turns]
  · have wide : 0 < l.span := Nat.sub_pos_of_lt order
    have inside : rpm - l.min ≤ l.span := Nat.sub_le_sub_right high l.min
    have step := nearestStep_le wide inside
    have missed := rise_nearestStep wide (rpm - l.min)
    have capped : min (nearestStep l.span (rpm - l.min) + 1) 100 - 1 =
        nearestStep l.span (rpm - l.min) := by omega
    rw [percentOfRpm_eq order turns, Nat.min_eq_left high,
      rpmOfPercent_eq order word (Nat.succ_ne_zero _), capped]
    omega

theorem percentOfRpm_rpmOfPercent (order : l.min < l.max) (word : l.max ≤ 4294967295)
    (turning : 1 ≤ l.min) (wide : 196 ≤ l.span) {percent : Nat} (share : percent ≤ 100) :
    percentOfRpm l (rpmOfPercent l percent) = percent := by
  by_cases asked : percent = 0
  · simp [rpmOfPercent, percentOfRpm, asked]
  · have fastest := rpmOfPercent_mono order word share
    rw [rpmOfPercent_hundred order word] at fastest
    have speed := rpmOfPercent_eq order word asked
    rw [Nat.min_eq_left share] at speed
    have above : l.min + rise l.span (percent - 1) - l.min = rise l.span (percent - 1) :=
      Nat.add_sub_cancel_left ..
    rw [percentOfRpm_eq order (by omega), Nat.min_eq_left fastest, speed, above, nearestStep_rise wide]
    omega

end FanChannel

namespace FanBank

/-- Speed rises with the percentage, from the slowest at 1 to the fastest at 100, and the percentage
rises with the speed. A speed within the limits comes back within half a step and less than one more;
a percentage comes back as it was, where the slowest speed is not zero and the span is wide. -/
theorem percent_maps_invert (b : FanBank) (fan : FanId) (c : FanChannel)
    (hc : b.channel? fan = some c) (order : c.limits.min < c.limits.max)
    (word : c.limits.max ≤ 4294967295) :
    (∀ percent percent', percent ≤ percent' →
      b.rpmOfPercent fan percent ≤ b.rpmOfPercent fan percent') ∧
    (∀ percent, 1 ≤ percent → percent ≤ 100 →
      c.limits.min ≤ b.rpmOfPercent fan percent ∧ b.rpmOfPercent fan percent ≤ c.limits.max) ∧
    b.rpmOfPercent fan 1 = c.limits.min ∧ b.rpmOfPercent fan 100 = c.limits.max ∧
    (∀ rpm rpm', rpm ≤ rpm' → b.percentOfRpm fan rpm ≤ b.percentOfRpm fan rpm') ∧
    (∀ rpm, c.limits.min ≤ rpm → rpm ≤ c.limits.max →
      198 * ((b.rpmOfPercent fan (b.percentOfRpm fan rpm) : Int) - rpm).natAbs <
        (c.limits.max - c.limits.min) + 198) ∧
    (1 ≤ c.limits.min → 196 ≤ c.limits.max - c.limits.min → ∀ percent, percent ≤ 100 →
      b.percentOfRpm fan (b.rpmOfPercent fan percent) = percent) := by
  have there : ∀ percent, b.rpmOfPercent fan percent = FanChannel.rpmOfPercent c.limits percent :=
    fun percent => by simp only [rpmOfPercent, hc]
  have back : ∀ rpm, b.percentOfRpm fan rpm = FanChannel.percentOfRpm c.limits rpm :=
    fun rpm => by simp only [percentOfRpm, hc]
  have slowest := FanChannel.rpmOfPercent_one order word
  have fastest := FanChannel.rpmOfPercent_hundred order word
  simp only [there, back]
  refine ⟨fun _ _ h => FanChannel.rpmOfPercent_mono order word h, fun percent some share => ⟨?_, ?_⟩,
    slowest, fastest, fun _ _ h => FanChannel.percentOfRpm_mono order h,
    fun rpm low high => FanChannel.rpmOfPercent_percentOfRpm order word low high,
    fun turning wide percent share =>
      FanChannel.percentOfRpm_rpmOfPercent order word turning wide share⟩
  · exact slowest ▸ FanChannel.rpmOfPercent_mono order word some
  · exact fastest ▸ FanChannel.rpmOfPercent_mono order word share

/-- Between the built-in limits a step is 98 wide: 10000 comes back as 9972, and each percentage as it
was. -/
theorem builtIn_maps_invert :
    let l := FanLimits.builtIn
    let b := ofCount 1 l FanConfig.builtIn
    b.channel? ⟨0⟩ = some (FanChannel.fresh l) ∧ l.min < l.max ∧ l.max ≤ 4294967295 ∧
      (l.min ≤ 10000 ∧ 10000 ≤ l.max) ∧ (1 ≤ l.min ∧ 196 ≤ l.max - l.min) ∧
      b.rpmOfPercent ⟨0⟩ (b.percentOfRpm ⟨0⟩ 10000) = 9972 ∧
      198 * ((b.rpmOfPercent ⟨0⟩ (b.percentOfRpm ⟨0⟩ 10000) : Int) - 10000).natAbs <
        (l.max - l.min) + 198 ∧
      ∀ percent, percent ≤ 100 → b.percentOfRpm ⟨0⟩ (b.rpmOfPercent ⟨0⟩ percent) = percent := by
  intro l b
  have order : l.min < l.max := by decide
  have word : l.max ≤ 4294967295 := by decide
  have low : l.min ≤ 10000 := by decide
  have high : 10000 ≤ l.max := by decide
  have turning : 1 ≤ l.min := by decide
  have wide : 196 ≤ l.max - l.min := by decide
  obtain ⟨_, _, _, _, _, near, exactly⟩ :=
    percent_maps_invert b ⟨0⟩ (FanChannel.fresh l) rfl order word
  exact ⟨rfl, order, word, ⟨low, high⟩, ⟨turning, wide⟩, by decide, near 10000 low high,
    exactly turning wide⟩

end FanBank

end BoardWarden
