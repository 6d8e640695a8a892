import BoardWarden.Cooling.Zone
import BoardWarden.Plant

set_option autoImplicit false

namespace BoardWarden

open Settings (Tag BoardUnit Store Defect Record)

structure CoolingConfig where
  pid : PidLimits
  /-- How long the AP's power button is pressed to ask for a shutdown. -/
  buttonPulse : Span
  /-- Time the AP has before its shutdown is forced. -/
  forceDelay : Span
  /-- Time from the forced shutdown to the fan override. -/
  overrideOffset : Span
  overrideDuty : Nat
  fanSupplyTimeout : Span

def CoolingConfig.builtIn : CoolingConfig :=
  { pid := PidLimits.builtIn
    buttonPulse := Span.ofMillis 200
    forceDelay := Span.ofSeconds 2
    overrideOffset := Span.ofMillis 100
    overrideDuty := 40
    fanSupplyTimeout := Span.ofMillis 200 }

/-- Degrees Celsius of a reading in kelvin, at most what 16 bits hold. -/
def celsiusOfKelvin (kelvin : Nat) : Int :=
  min ((kelvin : Int) - 273) 32767

structure CoolingInputs where
  /-- Every fan follows the demand. -/
  controlEnabled : Bool
  chipsetOn : Bool
  chipsetHardOff : Bool
  recoveryAllowed : Bool
  deriving DecidableEq

inductive Recovery where
  | resumed
  | restartAp
  deriving DecidableEq

structure CoolingTick where
  demand : Option Nat
  critical : Option Nat
  recovery : Option Recovery
  deriving DecidableEq

structure Cooling where
  zones : List Zone
  config : CoolingConfig
  /-- From a critical report until the recovery. -/
  inShutdown : Bool
  aggregate : Nat

namespace Cooling

def zoneLimit : Nat := 16

def ofDefinitions (definitions : List ZoneDefinition) (config : CoolingConfig) : Cooling :=
  { zones := (definitions.take zoneLimit).map Zone.ofDefinition
    config
    inShutdown := false
    aggregate := 0 }

def coolingZones (zones : List Zone) : List Zone := zones.filter Zone.cooling

def totalWeight (zones : List Zone) : Nat :=
  max (((coolingZones zones).map fun z => z.definition.weight.toNat).foldl (· + ·) 0) 1

/-- The weighted mean of the demands, unless one zone asks for all. -/
def meanDemand (zones : List Zone) : Nat :=
  if (coolingZones zones).any fun z => decide (100 ≤ z.requirement) then 100
  else
    min (((coolingZones zones).map fun z => z.definition.weight.toNat * z.requirement).foldl
      (· + ·) 0 / totalWeight zones) 100

def clearShutdown (c : Cooling) : Cooling :=
  { c with inShutdown := false }

/-- A zone on a daughterboard cools only if the board is there and carries sensors. -/
def checkPresence (store : Store) (z : Zone) : Zone :=
  match z.definition.slot with
  | none => z
  | some slot =>
    match store (.daughterboard slot) .boardInfo with
    | some (.boardInfo info) => if info.hasSensors then z else z.disable
    | _ => z.disable

/-- A record serves a zone if it is of the right kind, valid, and names that zone. -/
def calibrated (zone : Nat) (z : Zone) (record : Record) : Except Defect Zone :=
  match record with
  | .zoneLimits limits =>
    match limits.validate with
    | .error defect => .error defect
    | .ok limits =>
      if limits.zone = zone then .ok (z.applyLimits limits) else .error (.unknownZone limits.zone)
  | _ => .error (.wrongRecord (.zoneLimits zone))

def calibrate (store : Store) (time : Instant) : Nat → List Zone → Journal → List Zone × Journal
  | _, [], j => ([], j)
  | first, z :: rest, j =>
    let tag := Tag.zoneLimits first
    match (store .motherboard tag).map (calibrated first z) with
    | none =>
      let others := calibrate store time (first + 1) rest j
      (z :: others.1, others.2)
    | some (.ok zone) =>
      let others := calibrate store time (first + 1) rest j
      (zone :: others.1, others.2)
    | some (.error _) =>
      let others := calibrate store time (first + 1) rest (j.note (.configRejected tag) time)
      (z :: others.1, others.2)

def loadConfig (c : Cooling) (store : Store) (time : Instant) (j : Journal) : Cooling × Journal :=
  let loaded := calibrate store time 0 (c.zones.map (checkPresence store)) j
  ({ c with zones := loaded.1 },
    if (coolingZones loaded.1).all fun z => z.definition.weight = 0 then
      loaded.2.note .coolingWeightZero time
    else loaded.2)

variable {σ : Type} [Board σ]

def readZones (time : Instant) : List Zone → Plant σ → List (Zone × Option Int) × Plant σ
  | [], p => ([], p)
  | z :: rest, p =>
    if z.cooling then
      let kelvin := p.readKelvin z.definition.sensor
      match kelvin.1 with
      | .ok k =>
        let others := readZones time rest kelvin.2
        ((z.observe (some (celsiusOfKelvin k)), some (celsiusOfKelvin k)) :: others.1, others.2)
      | .error _ =>
        let others :=
          readZones time rest (kelvin.2.noteAt (.sensorReadFailed z.definition.sensor) time)
        ((z.observe none, none) :: others.1, others.2)
    else
      let others := readZones time rest p
      ((z, none) :: others.1, others.2)

def isCritical : Zone × Option Int → Bool
  | (z, some celsius) => z.cooling && decide (z.definition.thresholds.critical ≤ celsius)
  | (_, none) => false

def isCool : Zone × Option Int → Bool
  | (z, some celsius) => !z.cooling || decide (celsius < z.definition.thresholds.warning)
  | (z, none) => !z.cooling

def celsiusAt (readings : List (Zone × Option Int)) (zone : Nat) : Int :=
  match readings[zone]? with
  | some (_, some celsius) => celsius
  | _ => 0

def updateZones (l : PidLimits) (time : Instant) :
    Nat → List (Zone × Option Int) → Journal → Except Halt (List Zone × Journal)
  | _, [], j => .ok ([], j)
  | first, (z, celsius) :: rest, j =>
    if z.cooling then
      match z.update celsius l with
      | .error halt => .error halt
      | .ok (answer, zone) =>
        let j :=
          if answer.latched then
            j.record (.thermalWarning first) (.temperature (celsius.getD 0)) time
          else j
        match updateZones l time (first + 1) rest j with
        | .error halt => .error halt
        | .ok (zones, j) => .ok (zone :: zones, j)
    else
      match updateZones l time (first + 1) rest j with
      | .error halt => .error halt
      | .ok (zones, j) => .ok (z :: zones, j)

/-- What the end of a shutdown calls for, if it may end now. -/
def recovery? (inShutdown cool : Bool) (inputs : CoolingInputs) : Option Recovery :=
  if inShutdown && cool then
    if inputs.chipsetOn then some .resumed
    else if inputs.recoveryAllowed then some .restartAp
    else none
  else none

def enterShutdown (c : Cooling) (inputs : CoolingInputs) (zone : Nat) (celsius : Int)
    (time : Instant) (p : Plant σ) : CoolingTick × Cooling × Plant σ :=
  (⟨if inputs.controlEnabled then some 100 else none, some zone, none⟩,
    { c with
      inShutdown := true
      aggregate := if inputs.controlEnabled then 100 else c.aggregate },
    p.recordAt (.thermalCritical zone) (.temperature celsius) time)

def followDemand (c : Cooling) (inputs : CoolingInputs) (readings : List (Zone × Option Int))
    (time : Instant) (p : Plant σ) : Except Halt (Option Nat × Cooling × Plant σ) :=
  if inputs.controlEnabled then
    match updateZones c.config.pid time 0 readings p.journal with
    | .error halt => .error halt
    | .ok (zones, journal) =>
      let demand := meanDemand zones
      .ok (some demand, { c with zones, aggregate := demand }, { p with journal })
  else .ok (none, c, p)

/-- The work of one second: a critical zone comes before everything else. -/
def tick (c : Cooling) (inputs : CoolingInputs) (time : Instant) (p : Plant σ) :
    Except Halt (CoolingTick × Cooling × Plant σ) :=
  let read := readZones time c.zones p
  let observed := { c with zones := read.1.map Prod.fst }
  let critical :=
    if c.inShutdown || inputs.chipsetHardOff then none else read.1.findIdx? isCritical
  match critical with
  | some zone =>
    .ok (observed.enterShutdown inputs zone (celsiusAt read.1 zone) time read.2)
  | none =>
    match observed.followDemand inputs read.1 time read.2 with
    | .error halt => .error halt
    | .ok (demand, followed, p) =>
      match recovery? c.inShutdown (read.1.all isCool) inputs with
      | none => .ok (⟨demand, none, none⟩, followed, p)
      | some recovery =>
        .ok (⟨demand, none, some recovery⟩, followed.clearShutdown,
          p.noteAt .thermalRecovered time)

end Cooling

end BoardWarden
