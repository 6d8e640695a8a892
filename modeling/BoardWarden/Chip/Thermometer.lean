import BoardWarden.Chip.Pins

set_option autoImplicit false

namespace BoardWarden.Thermometer

/-- Address of the first sensor; the others follow it. -/
def baseAddress : Nat := 72

def lastAddress : Nat := 255

def sixteenths (register : Nat) : Int := (Int.bmod register 65536).fdiv 16

/-- Whole degrees, cut towards zero. A register reaches no further down than 145 kelvin. -/
def kelvin (register : Nat) : Nat := ((sixteenths register).tdiv 16 + 273).toNat

def read (sensor : SensorId) (p : Pins) : Except SensorFault Nat :=
  let address := baseAddress + sensor.index
  if lastAddress < address then .error .notPresent
  else
    match p.registers.lookup address with
    | some register => .ok (kelvin register)
    | none => .error .bus

end BoardWarden.Thermometer
