import Mathlib.Tactic.ByContra
import BoardWarden.Proofs.Cooling.Tick

set_option autoImplicit false

namespace BoardWarden

namespace Zone

/-- The reading failed, or is at the warning threshold, or at the hysteresis threshold while the
warning latch is set. -/
def Alarmed (z : Zone) (reading : Option Int) : Prop :=
  reading = none ∨ ∃ celsius, reading = some celsius ∧
    (z.definition.thresholds.warning ≤ celsius ∨
      (z.definition.thresholds.hysteresis ≤ celsius ∧ z.tending = true))

theorem alarmed_some (z : Zone) (celsius : Int) :
    z.Alarmed (some celsius) ↔ z.latchAfter celsius = true := by
  simp [Alarmed, latchAfter]

theorem percent_full : percent 100.0 = 100 := by decide +kernel

theorem update_alarmed (z : Zone) (reading : Option Int) (l : PidLimits)
    (alarmed : z.Alarmed reading) :
    ∃ answer z', z.update reading l = .ok (answer, z') ∧ z'.requirement = 100 := by
  cases reading with
  | none => exact ⟨_, _, rfl, rfl⟩
  | some celsius =>
    have latch := (z.alarmed_some celsius).1 alarmed
    simp only [update, latch, ↓reduceIte, percent_full]
    exact ⟨_, _, rfl, rfl⟩

theorem update_stuck (z : Zone) (reading : Option Int) (l : PidLimits) (disorder : ¬ l.InOrder)
    (calm : ¬ z.Alarmed reading) : z.update reading l = .error .integralBounds := by
  cases reading with
  | none => exact absurd (.inl rfl) calm
  | some celsius =>
    have latch : z.latchAfter celsius = false := by simpa [alarmed_some] using calm
    have stuck : ¬ -l.maxIntegral ≤ l.maxIntegral := disorder
    simp [update, latch, nextIntegral, bounded, stuck]

theorem update_cooling (z z' : Zone) (reading : Option Int) (l : PidLimits) (answer : Update)
    (h : z.update reading l = .ok (answer, z')) : z'.cooling = z.cooling := by
  cases reading with
  | none =>
    cases h
    rfl
  | some celsius =>
    simp only [update] at h
    repeat' split at h
    all_goals
      cases h
      try rfl

end Zone

namespace Cooling

def Alarm (readings : List (Zone × Option Int)) : Prop :=
  ∃ reading ∈ readings, reading.1.cooling = true ∧ reading.1.Alarmed reading.2

def Calm (readings : List (Zone × Option Int)) : Prop :=
  ∃ reading ∈ readings, reading.1.cooling = true ∧ ¬ reading.1.Alarmed reading.2

theorem updateZones_runs (l : PidLimits) (time : Instant) (first : Nat)
    (readings : List (Zone × Option Int)) (j : Journal) (runs : l.InOrder ∨ ¬ Calm readings) :
    ∃ answer, updateZones l time first readings j = .ok answer := by
  induction readings generalizing first j with
  | nil => exact ⟨_, rfl⟩
  | cons reading rest ih =>
    obtain ⟨z, reading⟩ := reading
    have others := fun first j => ih first j
      (runs.imp_right fun none ⟨other, old, calm⟩ => none ⟨other, .tail _ old, calm⟩)
    simp only [updateZones]
    split
    · rename_i cools
      have updated : ∃ answer, z.update reading l = .ok answer := by
        rcases runs with order | none
        · exact z.update_total reading l order
        · by_cases alarmed : z.Alarmed reading
          · obtain ⟨answer, z', updated, _⟩ := z.update_alarmed reading l alarmed
            exact ⟨_, updated⟩
          · exact absurd ⟨(z, reading), .head _, cools, alarmed⟩ none
      obtain ⟨⟨answer, z'⟩, updated⟩ := updated
      obtain ⟨_, done⟩ := others (first + 1)
        (if answer.latched then
          j.record (.thermalWarning first) (.temperature (reading.getD 0)) time else j)
      simp only [updated, done]
      exact ⟨_, rfl⟩
    · obtain ⟨_, done⟩ := others (first + 1) j
      simp only [done]
      exact ⟨_, rfl⟩

theorem updateZones_stuck (l : PidLimits) (time : Instant) (first : Nat)
    (readings : List (Zone × Option Int)) (j : Journal) (disorder : ¬ l.InOrder)
    (calm : Calm readings) : updateZones l time first readings j = .error .integralBounds := by
  induction readings generalizing first j with
  | nil =>
    obtain ⟨_, none, _⟩ := calm
    cases none
  | cons reading rest ih =>
    obtain ⟨z, reading⟩ := reading
    have later : ¬ (z.cooling = true ∧ ¬ z.Alarmed reading) → Calm rest := by
      intro first
      obtain ⟨other, old, quiet⟩ := calm
      rcases List.mem_cons.1 old with rfl | old
      · exact absurd quiet first
      · exact ⟨other, old, quiet⟩
    simp only [updateZones]
    split
    · by_cases alarmed : z.Alarmed reading
      · obtain ⟨answer, z', updated, _⟩ := z.update_alarmed reading l alarmed
        simp only [updated, ih _ _ (later fun quiet => quiet.2 alarmed)]
      · simp only [z.update_stuck reading l disorder alarmed]
    · rename_i cold
      simp only [ih _ _ (later fun quiet => cold quiet.1)]

theorem updateZones_alarm (l : PidLimits) (time : Instant) (first : Nat)
    (readings : List (Zone × Option Int)) (j j' : Journal) (zones : List Zone)
    (updated : updateZones l time first readings j = .ok (zones, j')) (alarm : Alarm readings) :
    ∃ z ∈ zones, z.cooling = true ∧ z.requirement = 100 := by
  induction readings generalizing first j j' zones with
  | nil =>
    obtain ⟨_, none, _⟩ := alarm
    cases none
  | cons reading rest ih =>
    obtain ⟨z, reading⟩ := reading
    obtain ⟨other, held, cools, alarmed⟩ := alarm
    simp only [updateZones] at updated
    split at updated
    · split at updated
      · cases updated
      · rename_i answer z' one
        split at updated
        · cases updated
        · rename_i zones' j'' others
          cases updated
          rcases List.mem_cons.1 held with rfl | old
          · obtain ⟨_, _, full, asks⟩ := z.update_alarmed reading l alarmed
            rw [one] at full
            cases full
            exact ⟨z', .head _, (z.update_cooling z' reading l answer one).trans cools, asks⟩
          · obtain ⟨z'', old, full⟩ := ih _ _ _ _ others ⟨other, old, cools, alarmed⟩
            exact ⟨z'', .tail _ old, full⟩
    · rename_i cold
      split at updated
      · cases updated
      · rename_i zones' j'' others
        cases updated
        rcases List.mem_cons.1 held with rfl | old
        · exact absurd cools cold
        · obtain ⟨z'', old, full⟩ := ih _ _ _ _ others ⟨other, old, cools, alarmed⟩
          exact ⟨z'', .tail _ old, full⟩

theorem meanDemand_full (zones : List Zone)
    (full : ∃ z ∈ zones, z.cooling = true ∧ z.requirement = 100) : meanDemand zones = 100 := by
  obtain ⟨z, held, cools, asks⟩ := full
  have any : ((coolingZones zones).any fun z => decide (100 ≤ z.requirement)) = true :=
    List.any_eq_true.2 ⟨z, List.mem_filter.2 ⟨held, cools⟩, by simp [asks]⟩
  rw [meanDemand, if_pos any]

/-- What stops a tick: nothing critical is reported, and the integral of a calm zone meets bounds
that are out of order. -/
structure Stuck (c : Cooling) (inputs : CoolingInputs) (readings : List (Zone × Option Int)) :
    Prop where
  disorder : ¬ c.config.pid.InOrder
  calm : Calm readings
  silent : c.inShutdown = true ∨ inputs.chipsetHardOff = true ∨
    ∀ reading ∈ readings, isCritical reading = false

variable {σ : Type} [Board σ]

theorem silent_iff (c : Cooling) (inputs : CoolingInputs) (readings : List (Zone × Option Int)) :
    (if c.inShutdown || inputs.chipsetHardOff then none else readings.findIdx? isCritical) = none ↔
      c.inShutdown = true ∨ inputs.chipsetHardOff = true ∨
        ∀ reading ∈ readings, isCritical reading = false := by
  by_cases shut : c.inShutdown = true
  · simp [shut]
  · by_cases off : inputs.chipsetHardOff = true
    · simp [off]
    · simp [shut, off]

theorem tick_stuck (c : Cooling) (inputs : CoolingInputs) (time : Instant) (p : Plant σ)
    (follows : inputs.controlEnabled = true)
    (stuck : c.Stuck inputs (readZones time c.zones p).1) :
    c.tick inputs time p = .error .integralBounds := by
  have halted := updateZones_stuck c.config.pid time 0 _ (readZones time c.zones p).2.journal
    stuck.disorder stuck.calm
  simp only [tick, (silent_iff c inputs _).2 stuck.silent, followDemand, follows, ↓reduceIte,
    halted]

theorem tick_alarm (c : Cooling) (inputs : CoolingInputs) (time : Instant) (p : Plant σ)
    (follows : inputs.controlEnabled = true) (alarm : Alarm (readZones time c.zones p).1)
    (free : ¬ c.Stuck inputs (readZones time c.zones p).1) :
    ∃ tick d p', c.tick inputs time p = .ok (tick, d, p') ∧ tick.demand = some 100 := by
  simp only [tick]
  split
  · exact ⟨_, _, _, rfl, by simp [follows]⟩
  · rename_i silent
    have runs : c.config.pid.InOrder ∨ ¬ Calm (readZones time c.zones p).1 := by
      by_contra stuck
      rw [not_or, not_not] at stuck
      exact free ⟨stuck.1, stuck.2, (silent_iff c inputs _).1 silent⟩
    obtain ⟨⟨zones, j⟩, updated⟩ :=
      updateZones_runs c.config.pid time 0 _ (readZones time c.zones p).2.journal runs
    have full := meanDemand_full zones (updateZones_alarm _ _ _ _ _ _ _ updated alarm)
    simp only [followDemand, follows, ↓reduceIte, updated, full]
    split <;> exact ⟨_, _, _, rfl, rfl⟩

end Cooling

end BoardWarden
