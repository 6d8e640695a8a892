import BoardWarden.Chip.Sampler
import Mathlib.Algebra.Order.Ring.Nat

set_option autoImplicit false

namespace BoardWarden.Sampler

def scaled (calibration reference raw : Nat) : Nat := raw * supplyMillivolts calibration reference

def nominal (calibration reference raw : Nat) : Nat :=
  min 65535 (11 * (scaled calibration reference raw / fullScale))

section Conversions

variable {calibration reference raw : Nat}

theorem products_fit_iff (calibrated : calibration ≤ fullScale) :
    (∀ product ∈ products calibration reference raw 11, product ≤ maxUnsigned) ↔
      scaled calibration reference raw ≤ maxUnsigned := by
  have first : calibrationSupply * calibration ≤ maxUnsigned := by
    simp only [calibrationSupply, fullScale, maxUnsigned] at *
    omega
  constructor
  · exact fun fits => fits _ (by simp [products, scaled])
  · intro fits product among
    simp only [products, List.mem_cons, List.not_mem_nil, or_false] at among
    obtain rfl | rfl | rfl := among
    · exact first
    · exact fits
    -- the quotient by 4095 leaves room for the divider
    · change scaled calibration reference raw / fullScale * 11 ≤ maxUnsigned
      simp only [fullScale, maxUnsigned] at *
      omega

theorem railMillivolts_eq (calibrated : calibration ≤ fullScale) :
    railMillivolts calibration reference raw 11 =
      if scaled calibration reference raw ≤ maxUnsigned then .ok (nominal calibration reference raw)
      else .error .wordOverflow := by
  rw [railMillivolts, nominal, Nat.min_comm, Nat.mul_comm 11]
  simp only [List.all_eq_true, decide_eq_true_eq, products_fit_iff calibrated]
  rfl

theorem scaled_mono {lower : Nat} (below : lower ≤ raw) :
    scaled calibration reference lower ≤ scaled calibration reference raw :=
  Nat.mul_le_mul_right _ below

theorem scaled_fits (calibrated : calibration ≤ fullScale) (strong : 12 ≤ reference)
    (sampled : raw ≤ fullScale) : scaled calibration reference raw ≤ maxUnsigned := by
  have supply : supplyMillivolts calibration reference ≤ 1023750 :=
    Nat.le_trans (Nat.div_le_div_left strong (by decide))
      (Nat.div_le_div_right (Nat.mul_le_mul_left calibrationSupply calibrated))
  calc scaled calibration reference raw
      ≤ fullScale * 1023750 := Nat.mul_le_mul sampled supply
    _ ≤ maxUnsigned := by decide

theorem nominal_mono {lower : Nat} (below : lower ≤ raw) :
    nominal calibration reference lower ≤ nominal calibration reference raw := by
  have step : scaled calibration reference lower / fullScale ≤
      scaled calibration reference raw / fullScale := Nat.div_le_div_right (scaled_mono below)
  simp only [nominal]
  omega

end Conversions

section Readings

variable {s : Sampler} {channel : Channel} {rail : SampledRail} {p : Pins}

/-- A channel that is sampled, behind a divider of 11 and on a converter of 12 bits, with a voltage
reference that is alive. -/
structure Samples (s : Sampler) (channel : Channel) (rail : SampledRail) (p : Pins) : Prop where
  found : s.rails.find? (fun rail => rail.channel = channel) = some rail
  divider : rail.divider = 11
  calibration : s.calibration ≤ fullScale
  alive : p.reference.1 ≠ 0
  reference : p.reference.1 ≤ fullScale
  sample : p.reference.2.convert rail.pin ≤ fullScale

theorem Samples.read_eq (samples : Samples s channel rail p) :
    s.read channel p =
      if scaled s.calibration p.reference.1 (p.reference.2.convert rail.pin) ≤ maxUnsigned then
        .ok (.ok (nominal s.calibration p.reference.1 (p.reference.2.convert rail.pin)), p.reference.2)
      else .error .wordOverflow := by
  rw [read, if_neg samples.alive]
  simp only [samples.found, samples.divider, railMillivolts_eq samples.calibration]
  split <;> rfl

theorem Samples.of_lower (samples : Samples s channel rail p) {p' : Pins}
    (same : p'.reference.1 = p.reference.1)
    (below : p'.reference.2.convert rail.pin ≤ p.reference.2.convert rail.pin) :
    Samples s channel rail p' :=
  ⟨samples.found, samples.divider, samples.calibration, same ▸ samples.alive,
    same ▸ samples.reference, Nat.le_trans below samples.sample⟩

/-- The words of a reading all hold exactly where the second product does, as it does for every
reference of twelve or more. There the reading is the scaled voltage, and no lower sample reads higher;
elsewhere there is no reading at all. -/
theorem reading_in_range (samples : Samples s channel rail p) :
    let reference := p.reference.1
    let raw := p.reference.2.convert rail.pin
    let product := raw * (3000 * s.calibration / reference)
    ((∀ number ∈ products s.calibration reference raw rail.divider, number < 4294967296) ↔
        product < 4294967296) ∧
      (12 ≤ reference → product < 4294967296) ∧
      (product < 4294967296 →
        s.read channel p = .ok (.ok (min 65535 (11 * (product / 4095))), p.reference.2) ∧
        ∀ p' : Pins, p'.reference.1 = reference → p'.reference.2.convert rail.pin ≤ raw →
          ∃ lower ≤ min 65535 (11 * (product / 4095)),
            s.read channel p' = .ok (.ok lower, p'.reference.2)) ∧
      (4294967296 ≤ product → s.read channel p = .error .wordOverflow) := by
  intro reference raw product
  have word (number : Nat) : number < 4294967296 ↔ number ≤ maxUnsigned := Nat.lt_succ_iff
  refine ⟨?_, fun strong => ?_, fun fits => ⟨?_, fun p' same below => ?_⟩, fun large => ?_⟩
  · simp only [word, samples.divider]
    exact products_fit_iff samples.calibration
  · exact (word _).2 (scaled_fits samples.calibration strong samples.sample)
  · exact samples.read_eq.trans (if_pos ((word _).1 fits))
  · have fits' : scaled s.calibration reference (p'.reference.2.convert rail.pin) ≤ maxUnsigned :=
      Nat.le_trans (scaled_mono below) ((word _).1 fits)
    refine ⟨_, nominal_mono below, ?_⟩
    rw [(samples.of_lower same below).read_eq, same, if_pos fits']
  · exact samples.read_eq.trans (if_neg fun fits => absurd ((word _).2 fits) (Nat.not_lt.2 large))

def inputPins (reference raw : Nat) : Pins :=
  { Pins.fresh with references := [reference], inputs := [("vin", ⟨raw, none⟩)] }

def carrierSampler : Sampler := (start [] Pins.fresh).1

theorem carrier_reads_input :
    carrierSampler.read ⟨0⟩ (inputPins 12 4095) = .ok (.ok 65535, inputPins 12 4095) := by
  have samples : Samples carrierSampler ⟨0⟩ ⟨⟨0⟩, "vin", 11⟩ (inputPins 12 4095) := by
    refine ⟨?_, rfl, ?_, ?_, ?_, ?_⟩ <;> decide
  exact ((reading_in_range samples).2.2.1 (by decide)).1

/-- With a reference of one, which is not dead, the input rail reads as high as can be told at a sample
of 867, and halts the program one step higher, where its voltage is no lower. -/
theorem carrier_halts_on_reading :
    carrierSampler.read ⟨0⟩ (inputPins 1 867) = .ok (.ok 65535, inputPins 1 867) ∧
      carrierSampler.read ⟨0⟩ (inputPins 1 868) = .error .wordOverflow ∧
      nominal 1650 1 868 = 65535 := by
  refine ⟨rfl, rfl, ?_⟩
  decide

end Readings

end BoardWarden.Sampler
