import BoardWarden.Chip.Pins

set_option autoImplicit false

namespace BoardWarden

structure SampledRail where
  channel : Channel
  pin : String
  /-- Rail millivolts for each millivolt at the pin. -/
  divider : Nat
  deriving DecidableEq

structure Sampler where
  /-- What the voltage reference reads at `calibrationSupply`. -/
  calibration : Nat
  rails : List SampledRail
  deriving DecidableEq

namespace Sampler

def calibrationSupply : Nat := 3000

def fullScale : Nat := 4095

def limit : Nat := 4

def supplyMillivolts (calibration reference : Nat) : Nat :=
  calibrationSupply * calibration / reference

def pinMillivolts (calibration reference raw : Nat) : Nat :=
  raw * supplyMillivolts calibration reference / fullScale

/-- The products that have to fit a word of 32 bits. -/
def products (calibration reference raw divider : Nat) : List Nat :=
  [calibrationSupply * calibration, raw * supplyMillivolts calibration reference,
    pinMillivolts calibration reference raw * divider]

/-- Millivolts of a rail; the result stops at 16 bits, and the products on the way do not. -/
def railMillivolts (calibration reference raw divider : Nat) : Except Halt Nat :=
  if (products calibration reference raw divider).all fun product => decide (product ≤ maxUnsigned) then
    .ok (min (pinMillivolts calibration reference raw * divider) 65535)
  else .error .wordOverflow

/-- The input of the carrier, then the rails that are sampled beside it. The first conversion of
the voltage reference is not to be trusted, so it is made here and dropped. -/
def start (others : List SampledRail) (p : Pins) : Sampler × Pins :=
  (⟨p.calibration, (⟨⟨0⟩, "vin", 11⟩ :: others).take limit⟩, p.reference.2)

/-- A dead voltage reference is a fault of every channel, also of one that is not sampled. -/
def read (s : Sampler) (channel : Channel) (p : Pins) : Except Halt (Except LineFault Nat × Pins) :=
  let reference := p.reference
  if reference.1 = 0 then .ok (.error .bus, reference.2)
  else
    match s.rails.find? fun rail => rail.channel = channel with
    | none => .ok (.error .unmapped, reference.2)
    | some rail =>
      (railMillivolts s.calibration reference.1 (reference.2.convert rail.pin) rail.divider).map
        fun millivolts => (.ok millivolts, reference.2)

end Sampler

end BoardWarden
