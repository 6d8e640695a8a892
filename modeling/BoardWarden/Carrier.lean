import BoardWarden.Controller.Basic

set_option autoImplicit false

/-!
The reference carrier: one AP, a standby domain, two groups above S3, a daughterboard slot and
two fans. The rails of the AP form one tree from the 12 V input; the fan rail is a root of its
own, so that the fans can run after the AP is down.
-/

namespace BoardWarden.Carrier

open Settings (Thresholds)

def fanCount : Nat := 2

def vinEnable : Line := ⟨0⟩

def fanEnable : Line := ⟨8⟩

def vinSense : Channel := ⟨0⟩

def fanRail : RailId := ⟨5⟩

def apAlive : Line := ⟨10⟩

def daughterboardSlot : Nat := 0

def rail (name : String) (parent : Nat) (enable : Nat) (feedback : Feedback) : Rail :=
  ⟨name, ⟨parent⟩, ⟨⟨enable⟩, false⟩, feedback⟩

def rails : List Rail :=
  [rail "12V" 0 0 (.analog vinSense 11000),
    rail "3V3_STBY" 0 1 (.powerGood ⟨2⟩),
    rail "1V8_IO" 1 3 .none,
    rail "0V85_CORE" 1 4 (.powerGood ⟨5⟩),
    rail "1V1_DDR" 3 6 (.powerGood ⟨7⟩),
    rail "12V_FAN" 5 8 (.powerGood ⟨9⟩),
    rail "DB_3V3" 1 16 .none,
    rail "DB_1V8" 1 17 .none,
    rail "DB_1V2" 1 18 .none,
    rail "DB_0V9" 1 19 .none,
    rail "DB_5V" 1 20 .none,
    rail "DB_AUX" 1 21 .none]

def plan : PowerPlan :=
  { primary := [Step.ofMillis 0 10, Step.ofMillis 1 5]
    secondary :=
      [[Step.ofMillis 2 1, Step.ofMillis 3 2],
        [Step.ofMillis 4 2, Step.ofMillis 5 0]]
    daughterboard := none
    apAlive := some apAlive }

def zone (name : String) (sensor : Nat) (thresholds : Thresholds) (weight : UInt8)
    (kp ki : Float32) (slot : Option Nat) : ZoneDefinition :=
  { name, sensor := ⟨sensor⟩, thresholds, cooling := true, weight, kp, ki, slot }

def zones : List ZoneDefinition :=
  [zone "ap" 0 ⟨46, 75, 80, 85⟩ 100 1.6 0.17 none,
    zone "board" 1 ⟨55, 80, 85, 95⟩ 40 1.0 0.1 none,
    zone "rf" 2 ⟨60, 85, 90, 100⟩ 60 1.2 0.1 (some daughterboardSlot)]

def daughterboard : DaughterboardRails :=
  { slot := daughterboardSlot, rails := Vector.ofFn fun bit => ⟨6 + bit.val⟩ }

def layout : BoardLayout :=
  { rails, plan, zones, fanSupply := some fanRail, daughterboard := some daughterboard }

end BoardWarden.Carrier
