import BoardWarden.Bench.Wiring

set_option autoImplicit false

namespace BoardWarden

inductive InterruptPin where
  | power
  | reset
  | fault
  | tach0
  | tach1
  deriving DecidableEq

namespace InterruptPin

def all : List InterruptPin := [power, reset, fault, tach0, tach1]

def text : InterruptPin → String
  | power => "power"
  | reset => "reset"
  | fault => "fault"
  | tach0 => "tach0"
  | tach1 => "tach1"

end InterruptPin

structure Edge where
  pin : InterruptPin
  level : Bool
  deriving DecidableEq

def Line.pin (line : Line) : String := "sig" ++ toString line.index

/-- A reading at the converter, which needs its gate, if it has one, to be high. -/
structure ConverterInput where
  raw : Nat
  gate : Option String
  deriving DecidableEq

structure Pins where
  /-- Outputs that were written; all others are low. -/
  outputs : List (String × Driven)
  /-- The output that an input follows, and after how many microseconds. -/
  follows : List (String × String × Nat)
  stuckLow : List String
  inputs : List (String × ConverterInput)
  /-- Readings of the voltage reference to come; the last one stays. -/
  references : List Nat
  registers : List (Nat × Nat)
  /-- Interrupt pins that are low. -/
  interruptsLow : List InterruptPin
  /-- The factory calibration of the voltage reference. -/
  calibration : Nat
  deriving DecidableEq

structure PinsChange where
  follow : List (String × String × Nat) := []
  release : List String := []
  stuckLow : List String := []
  inputs : List (String × ConverterInput) := []
  references : Option (List Nat) := none
  /-- A sensor without a register is taken off the bus. -/
  registers : List (Nat × Option Nat) := []
  raise : List String := []
  interrupts : List (InterruptPin × Bool) := []
  calibration : Option Nat := none

namespace Pins

def fresh : Pins :=
  { outputs := []
    follows := []
    stuckLow := []
    inputs := []
    references := [1650]
    registers := []
    interruptsLow := []
    calibration := 1650 }

def output (p : Pins) (name : String) : Driven :=
  (p.outputs.lookup name).getD ⟨false, 0⟩

def write (p : Pins) (name : String) (level : Bool) (now : Instant) : Pins :=
  { p with outputs := assign p.outputs (name, (p.output name).drive level now) }

def read (p : Pins) (name : String) (now : Instant) : Bool :=
  !p.stuckLow.contains name &&
    match p.follows.lookup name with
    | some (output, latency) => (p.output output).heldFor latency now
    | none => false

def convert (p : Pins) (name : String) : Nat :=
  match p.inputs.lookup name with
  | some ⟨raw, none⟩ => raw
  | some ⟨raw, some gate⟩ => if (p.output gate).level then raw else 0
  | none => 0

def reference (p : Pins) : Nat × Pins :=
  match p.references with
  | [] => (0, p)
  | [last] => (last, p)
  | next :: rest => (next, { p with references := rest })

def interruptLow (p : Pins) (pin : InterruptPin) : Bool := p.interruptsLow.contains pin

def setRegister (registers : List (Nat × Nat)) (change : Nat × Option Nat) : List (Nat × Nat) :=
  match change.2 with
  | some register => assign registers (change.1, register)
  | none => registers.filter fun r => r.1 != change.1

def setInterrupt (state : Pins × List Edge) (change : InterruptPin × Bool) : Pins × List Edge :=
  let p := state.1
  if p.interruptLow change.1 = change.2 then
    ({ p with
        interruptsLow :=
          if change.2 then p.interruptsLow.filter (· != change.1) else change.1 :: p.interruptsLow },
      state.2 ++ [⟨change.1, change.2⟩])
  else state

def change (p : Pins) (c : PinsChange) (now : Instant) : Pins × List Edge :=
  let p :=
    { p with
      follows := c.follow.foldl assign p.follows
      stuckLow := p.stuckLow.filter (fun name => !c.release.contains name) ++ c.stuckLow
      inputs := c.inputs.foldl assign p.inputs
      references := c.references.getD p.references
      registers := c.registers.foldl setRegister p.registers }
  let raised := c.raise.foldl (fun p name => p.write name true now) p
  c.interrupts.foldl setInterrupt
    ({ raised with calibration := c.calibration.getD p.calibration }, [])

def carrierWiring : PinsChange :=
  { follow := [("sig2", "sig1", 2000), ("sig5", "sig4", 1000), ("sig7", "sig6", 1000),
      ("sig9", "sig8", 5000), ("sig10", "sig4", 20000)]
    inputs := [("vin", ⟨1489, some "sig0"⟩)]
    registers := [(72, some 10240), (73, some 10240)] }

end Pins

end BoardWarden
