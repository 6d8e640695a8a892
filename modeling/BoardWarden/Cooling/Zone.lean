import BoardWarden.Halt
import BoardWarden.Settings.Record

set_option autoImplicit false

namespace BoardWarden

open Settings (Thresholds ZoneLimits)

structure ZoneDefinition where
  name : String
  sensor : SensorId
  thresholds : Thresholds
  /-- A zone that does not cool is only there to be shown. -/
  cooling : Bool
  weight : UInt8
  kp : Float32
  ki : Float32
  /-- The slot of the daughterboard that carries the sensor. -/
  slot : Option Nat

structure PidLimits where
  /-- Mean errors up to here ask for no integral. -/
  minError : Float32
  /-- Mean errors from here on ask for no integral. -/
  maxError : Float32
  maxIntegral : Float32
  history : Nat

namespace PidLimits

def builtIn : PidLimits := ⟨1.0, 10.0, 25.0, 1⟩

def historyLimit : Nat := 120

def window (l : PidLimits) : Nat := min (max l.history 1) historyLimit

end PidLimits

structure Zone where
  definition : ZoneDefinition
  integral : Float32
  /-- The warning latch. -/
  tending : Bool
  requirement : Nat
  errors : List Float32
  /-- The slot of the next error. -/
  cursor : Nat
  lastCelsius : Option Int

namespace Zone

def initialError : Float32 := 2.0

def ofDefinition (definition : ZoneDefinition) : Zone :=
  { definition
    integral := 0.0
    tending := false
    requirement := 0
    errors := List.replicate PidLimits.historyLimit initialError
    cursor := 0
    lastCelsius := none }

def cooling (z : Zone) : Bool := z.definition.cooling

def disable (z : Zone) : Zone :=
  { z with definition := { z.definition with cooling := false }, requirement := 0 }

def applyLimits (z : Zone) (l : ZoneLimits) : Zone :=
  { z with
    definition :=
      { z.definition with
        thresholds := l.thresholds
        weight := l.weight
        kp := l.kp
        ki := l.ki } }

/-- A failed reading leaves the last temperature in place. -/
def observe (z : Zone) (celsius : Option Int) : Zone :=
  { z with lastCelsius := celsius.or z.lastCelsius }

/-- Writes an error into a window of `window` slots, which it reuses in turn. -/
def pushError (z : Zone) (error : Float32) (window : Nat) : Zone :=
  let slot := if window ≤ z.cursor then 0 else z.cursor
  { z with errors := z.errors.set slot error, cursor := slot + 1 }

/-- Summed from the first slot on, with one rounding for each addition. -/
def meanError (z : Zone) (window : Nat) : Float32 :=
  (z.errors.take window).foldl (· + ·) 0.0 / Float32.ofNat window

def error (z : Zone) (celsius : Int) : Float32 :=
  Float32.ofInt celsius - Float32.ofInt z.definition.thresholds.target

def latchAfter (z : Zone) (celsius : Int) : Bool :=
  decide (z.definition.thresholds.warning ≤ celsius) ||
    (decide (z.definition.thresholds.hysteresis ≤ celsius) && z.tending)

/-- Keeps a value between two bounds, which must be in order. No bound changes a NaN. -/
def bounded (low high x : Float32) : Option Float32 :=
  if low ≤ high then
    let raised := if x < low then low else x
    some (if high < raised then high else raised)
  else none

def nextIntegral (z : Zone) (mean : Float32) (l : PidLimits) : Option Float32 :=
  let size := mean.abs
  bounded (-l.maxIntegral) l.maxIntegral
    (if size ≤ l.minError || l.maxError ≤ size then 0.0 else z.integral + mean)

/-- Whole percent between 0 and 100; a NaN asks for nothing. -/
def percent (demand : Float32) : Nat :=
  let raised := if demand < 0.0 then 0.0 else demand
  (if 100.0 < raised then (100.0 : Float32) else raised).toUInt8.toNat

structure Update where
  demand : Nat
  latched : Bool
  deriving DecidableEq

/-- Takes a reading. A failed reading asks for full cooling and changes nothing else. -/
def update (z : Zone) (celsius : Option Int) (l : PidLimits) : Except Halt (Update × Zone) :=
  match celsius with
  | none => .ok (⟨100, false⟩, { z with requirement := 100 })
  | some celsius =>
    let latch := z.latchAfter celsius
    let read := { z.pushError (z.error celsius) l.window with
      lastCelsius := some celsius, tending := latch }
    if latch then
      let demand := percent 100.0
      .ok (⟨demand, !z.tending⟩, { read with requirement := demand })
    else
      let mean := read.meanError l.window
      match read.nextIntegral mean l with
      | none => .error .integralBounds
      | some integral =>
        let demand := percent (mean * z.definition.kp + integral * z.definition.ki)
        .ok (⟨demand, false⟩, { read with integral, requirement := demand })

end Zone

end BoardWarden
