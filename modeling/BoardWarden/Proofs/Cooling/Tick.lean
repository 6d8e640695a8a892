import BoardWarden.Cooling.Basic

set_option autoImplicit false

namespace BoardWarden

def PidLimits.InOrder (l : PidLimits) : Prop := -l.maxIntegral ≤ l.maxIntegral

instance (l : PidLimits) : Decidable l.InOrder :=
  inferInstanceAs (Decidable (-l.maxIntegral ≤ l.maxIntegral))

namespace Zone

theorem update_total (z : Zone) (celsius : Option Int) (l : PidLimits) (bounds : l.InOrder) :
    ∃ answer, z.update celsius l = .ok answer := by
  cases celsius with
  | none => exact ⟨_, rfl⟩
  | some celsius =>
    simp only [update]
    split
    · exact ⟨_, rfl⟩
    · split
      · rename_i missing
        have bounds' : -l.maxIntegral ≤ l.maxIntegral := bounds
        simp [nextIntegral, bounded, bounds'] at missing
      · exact ⟨_, rfl⟩

end Zone

namespace Cooling

theorem updateZones_total (l : PidLimits) (bounds : l.InOrder) (time : Instant) (first : Nat)
    (readings : List (Zone × Option Int)) (j : Journal) :
    ∃ answer, updateZones l time first readings j = .ok answer := by
  induction readings generalizing first j with
  | nil => exact ⟨_, rfl⟩
  | cons reading rest ih =>
    obtain ⟨z, celsius⟩ := reading
    simp only [updateZones]
    split
    · obtain ⟨⟨answer, zone⟩, updated⟩ := z.update_total celsius l bounds
      obtain ⟨⟨zones, j'⟩, others⟩ := ih (first + 1)
        (if answer.latched then
          j.record (.thermalWarning first) (.temperature (celsius.getD 0)) time else j)
      simp only [updated, others]
      exact ⟨_, rfl⟩
    · obtain ⟨⟨zones, j'⟩, others⟩ := ih (first + 1) j
      simp only [others]
      exact ⟨_, rfl⟩

variable {σ : Type}

theorem followDemand_total (c : Cooling) (inputs : CoolingInputs)
    (readings : List (Zone × Option Int)) (time : Instant) (p : Plant σ)
    (bounds : c.config.pid.InOrder) :
    ∃ answer, c.followDemand inputs readings time p = .ok answer := by
  simp only [followDemand]
  split
  · obtain ⟨⟨zones, journal⟩, updated⟩ :=
      updateZones_total c.config.pid bounds time 0 readings p.journal
    simp only [updated]
    exact ⟨_, rfl⟩
  · exact ⟨_, rfl⟩

theorem followDemand_keeps (c d : Cooling) (inputs : CoolingInputs)
    (readings : List (Zone × Option Int)) (time : Instant) (p p' : Plant σ) (demand : Option Nat)
    (h : c.followDemand inputs readings time p = .ok (demand, d, p')) :
    d.inShutdown = c.inShutdown ∧ d.config = c.config ∧ p'.board = p.board := by
  simp only [followDemand] at h
  split at h
  · split at h
    · cases h
    · simp only [Except.ok.injEq, Prod.mk.injEq] at h
      obtain ⟨_, rfl, rfl⟩ := h
      exact ⟨rfl, rfl, rfl⟩
  · simp only [Except.ok.injEq, Prod.mk.injEq] at h
    obtain ⟨_, rfl, rfl⟩ := h
    exact ⟨rfl, rfl, rfl⟩

variable [Board σ]

theorem tick_total (c : Cooling) (inputs : CoolingInputs) (time : Instant) (p : Plant σ)
    (bounds : c.config.pid.InOrder) : ∃ answer, c.tick inputs time p = .ok answer := by
  simp only [tick]
  split
  · exact ⟨_, rfl⟩
  · obtain ⟨⟨demand, followed, p'⟩, h⟩ := followDemand_total
      { c with zones := (readZones time c.zones p).1.map Prod.fst } inputs
      (readZones time c.zones p).1 time (readZones time c.zones p).2 bounds
    simp only [h]
    split <;> exact ⟨_, rfl⟩

omit [Board σ] in
theorem isCritical_iff (z : Zone) (reading : Option Int) :
    isCritical (z, reading) = true ↔ ∃ celsius, reading = some celsius ∧ z.cooling = true ∧
      z.definition.thresholds.critical ≤ celsius := by
  cases reading with
  | none => simp [isCritical]
  | some celsius => simp [isCritical]

/-- A tick reports a critical zone, or a recovery, or neither; each report comes with its change
of the flag. -/
theorem tick_cases (c d : Cooling) (inputs : CoolingInputs) (time : Instant) (p p' : Plant σ)
    (tick : CoolingTick) (h : c.tick inputs time p = .ok (tick, d, p')) :
    (tick.critical.isSome ∧ tick.recovery = none ∧ c.inShutdown = false ∧
        inputs.chipsetHardOff = false ∧ d.inShutdown = true) ∨
      (tick.critical = none ∧ tick.recovery.isSome ∧ c.inShutdown = true ∧
        (readZones time c.zones p).1.all isCool = true ∧ d.inShutdown = false) ∨
      (tick.critical = none ∧ tick.recovery = none ∧ d.inShutdown = c.inShutdown) := by
  simp only [Cooling.tick] at h
  split at h
  · rename_i zone found
    simp only [Except.ok.injEq] at h
    obtain ⟨rfl, rfl, _⟩ := h
    have clear : (c.inShutdown || inputs.chipsetHardOff) = false := by
      cases blocked : c.inShutdown || inputs.chipsetHardOff with
      | false => rfl
      | true => simp [blocked] at found
    rw [Bool.or_eq_false_iff] at clear
    exact .inl ⟨rfl, rfl, clear.1, clear.2, rfl⟩
  · split at h
    · cases h
    · rename_i demand followed q followed_eq
      obtain ⟨kept, _, _⟩ := followDemand_keeps _ _ _ _ _ _ _ _ followed_eq
      split at h
      · simp only [Except.ok.injEq, Prod.mk.injEq] at h
        obtain ⟨rfl, rfl, _⟩ := h
        exact .inr (.inr ⟨rfl, rfl, kept⟩)
      · rename_i recovery recovered
        simp only [Except.ok.injEq, Prod.mk.injEq] at h
        obtain ⟨rfl, rfl, _⟩ := h
        have cool : (c.inShutdown && (readZones time c.zones p).1.all isCool) = true := by
          cases blocked : c.inShutdown && (readZones time c.zones p).1.all isCool with
          | true => rfl
          | false => simp [recovery?, blocked] at recovered
        rw [Bool.and_eq_true] at cool
        exact .inr (.inl ⟨rfl, rfl, cool.1, cool.2, rfl⟩)

theorem tick_config (c d : Cooling) (inputs : CoolingInputs) (time : Instant) (p p' : Plant σ)
    (tick : CoolingTick) (h : c.tick inputs time p = .ok (tick, d, p')) : d.config = c.config := by
  simp only [Cooling.tick] at h
  split at h
  · simp only [Except.ok.injEq] at h
    obtain ⟨_, rfl, _⟩ := h
    rfl
  · split at h
    · cases h
    · rename_i demand followed q followed_eq
      obtain ⟨_, kept, _⟩ := followDemand_keeps _ _ _ _ _ _ _ _ followed_eq
      split at h
      · simp only [Except.ok.injEq, Prod.mk.injEq] at h
        obtain ⟨_, rfl, _⟩ := h
        exact kept
      · simp only [Except.ok.injEq, Prod.mk.injEq] at h
        obtain ⟨_, rfl, _⟩ := h
        exact kept

theorem tick_board (c d : Cooling) (inputs : CoolingInputs) (time : Instant) (p p' : Plant σ)
    (tick : CoolingTick) (h : c.tick inputs time p = .ok (tick, d, p')) :
    p'.board = (readZones time c.zones p).2.board := by
  simp only [Cooling.tick] at h
  split at h
  · cases h
    rfl
  · split at h
    · cases h
    · rename_i demand followed q followed_eq
      obtain ⟨_, _, board⟩ := followDemand_keeps _ _ _ _ _ _ _ _ followed_eq
      split at h
      · cases h
        exact board
      · cases h
        exact board

theorem tick_reports (c d : Cooling) (inputs : CoolingInputs) (time : Instant) (p p' : Plant σ)
    (tick : CoolingTick) (h : c.tick inputs time p = .ok (tick, d, p'))
    (calm : c.inShutdown = false) (powered : inputs.chipsetHardOff = false)
    (hot : ∃ reading ∈ (readZones time c.zones p).1, isCritical reading = true) :
    tick.critical.isSome := by
  have found : ((readZones time c.zones p).1.findIdx? isCritical).isSome := by
    simpa using hot
  obtain ⟨zone, found⟩ := Option.isSome_iff_exists.1 found
  simp only [Cooling.tick, calm, powered, Bool.or_self, Bool.false_eq_true, ↓reduceIte, found,
    Except.ok.injEq] at h
  obtain ⟨rfl, _⟩ := h
  rfl

structure Begins (c : Cooling) (inputs : CoolingInputs) (readings : List (Zone × Option Int)) :
    Prop where
  calm : c.inShutdown = false
  powered : inputs.chipsetHardOff = false
  hot : ∃ reading ∈ readings, isCritical reading = true

theorem tick_begins_iff (c d : Cooling) (inputs : CoolingInputs) (time : Instant) (p p' : Plant σ)
    (tick : CoolingTick) (h : c.tick inputs time p = .ok (tick, d, p')) :
    tick.critical.isSome ↔ c.Begins inputs (readZones time c.zones p).1 := by
  constructor
  · intro critical
    obtain ⟨calm, powered⟩ : c.inShutdown = false ∧ inputs.chipsetHardOff = false := by
      rcases tick_cases c d inputs time p p' tick h with ⟨_, _, calm, powered, _⟩ | ⟨none, _⟩ | ⟨none, _⟩
      · exact ⟨calm, powered⟩
      all_goals simp [none] at critical
    refine ⟨calm, powered, ?_⟩
    cases found : (readZones time c.zones p).1.findIdx? isCritical with
    | some zone =>
      have hot : ((readZones time c.zones p).1.findIdx? isCritical).isSome := by rw [found]; rfl
      simpa using hot
    | none =>
      simp only [Cooling.tick, calm, powered, found, Bool.or_self, Bool.false_eq_true,
        ↓reduceIte] at h
      repeat' split at h
      all_goals
        cases h
        try cases critical
  · exact fun begins => tick_reports c d inputs time p p' tick h begins.calm begins.powered begins.hot

end Cooling

end BoardWarden
