import BoardWarden.Agenda
import BoardWarden.Cooling.Basic
import BoardWarden.Fan.Bank
import BoardWarden.Power.Sequencer
import BoardWarden.Settings.Expansion

set_option autoImplicit false

namespace BoardWarden

open Settings (Store McuFlags FanLimits)

structure ControllerConfig where
  rails : RailTiming
  power : PowerTimings
  cooling : CoolingConfig
  fan : FanConfig
  fanLimits : FanLimits

def ControllerConfig.builtIn : ControllerConfig :=
  { rails := RailTiming.builtIn
    power := PowerTimings.builtIn
    cooling := CoolingConfig.builtIn
    fan := FanConfig.builtIn
    fanLimits := FanLimits.builtIn }

structure DaughterboardRails where
  slot : Nat
  rails : Vector RailId 6
  deriving DecidableEq

structure BoardLayout where
  rails : List Rail
  plan : PowerPlan
  zones : List ZoneDefinition
  fanSupply : Option RailId
  daughterboard : Option DaughterboardRails

structure Controller (σ : Type) where
  rig : Rig σ
  sequencer : Sequencer
  cooling : Cooling
  fans : FanBank
  agenda : Agenda
  config : ControllerConfig
  flags : McuFlags
  fanSupply : Option RailId
  daughterboard : Option DaughterboardRails
  /-- The armed reset is for the watchdog. -/
  watchdogReset : Bool

namespace Controller

variable {σ : Type}

def fresh (layout : BoardLayout) (fanCount : Nat) (config : ControllerConfig) (board : σ) :
    Controller σ :=
  { rig := ⟨⟨board, Journal.fresh⟩, RailBank.ofTable layout.rails config.rails⟩
    sequencer := Sequencer.fresh layout.plan config.power
    cooling := Cooling.ofDefinitions layout.zones config.cooling
    fans := FanBank.ofCount fanCount config.fanLimits config.fan
    agenda := Agenda.empty
    config
    flags := McuFlags.builtIn
    fanSupply := layout.fanSupply
    daughterboard := layout.daughterboard
    watchdogReset := false }

def plant (c : Controller σ) : Plant σ := c.rig.plant

def board (c : Controller σ) : σ := c.rig.plant.board

def journal (c : Controller σ) : Journal := c.rig.plant.journal

def powerState (c : Controller σ) : PowerState := c.sequencer.state

def withPlant (c : Controller σ) (p : Plant σ) : Controller σ :=
  { c with rig := { c.rig with plant := p } }

def withBoard (c : Controller σ) (b : σ) : Controller σ :=
  c.withPlant { c.plant with board := b }

def withJournal (c : Controller σ) (j : Journal) : Controller σ :=
  c.withPlant { c.plant with journal := j }

def isSteady (c : Controller σ) : Bool :=
  c.sequencer.isSteady && !c.rig.rails.faultCheckPending

def storedFlags (store : Store) (time : Instant) (j : Journal) : McuFlags × Journal :=
  match store .motherboard .mcuFlags with
  | some (.mcuFlags flags) => (flags, j)
  | some _ => (McuFlags.builtIn, j.note (.configRejected .mcuFlags) time)
  | none => (McuFlags.builtIn, j.note (.configDefaulted .mcuFlags) time)

/-- The stored sequence of a slot: none if nothing is stored, and no sequence if what is stored
cannot be used. -/
def storedSequence (store : Store) (d : DaughterboardRails) : Option (Option (List Step)) :=
  (store (.daughterboard d.slot) .powerRows).map fun record =>
    match record with
    | .powerRows rows => (rows.sequence d.rails).toOption
    | _ => none

def loadDaughterboard (c : Controller σ) (store : Store) (time : Instant) : Controller σ :=
  match c.daughterboard.bind (storedSequence store) with
  | none => c
  | some none =>
    { c.withJournal (c.journal.note (.configRejected .powerRows) time) with
      sequencer := c.sequencer.setDaughterboard none }
  | some (some steps) => { c with sequencer := c.sequencer.setDaughterboard (some steps) }

def loadSettings (c : Controller σ) (store : Store) (time : Instant) : Controller σ :=
  let flags := storedFlags store time c.journal
  let c : Controller σ := { c.withJournal flags.2 with flags := flags.1 }.loadDaughterboard store time
  let cooling := c.cooling.loadConfig store time c.journal
  let fans := c.fans.loadLimits store time cooling.2
  { c.withJournal fans.2 with cooling := cooling.1, fans := fans.1 }

variable [Board σ]

def now (c : Controller σ) : Instant := c.rig.plant.now

def setFans (on : Bool) : List FanId → FanBank → Plant σ → FanBank × Plant σ
  | [], b, p => (b, p)
  | fan :: rest, b, p =>
    let set := b.setEnabled fan on p
    setFans on rest set.1 set.2

def enableFans (c : Controller σ) (on : Bool) : Controller σ :=
  let set := setFans on c.fans.fans c.fans c.plant
  { c.withPlant set.2 with fans := set.1 }

/-- Adopts what is live, loads the stored settings, and lets the sequencer find its first state. -/
def init (c : Controller σ) (store : Store) (reset : ResetFlags) : Controller σ :=
  let time := c.now
  let c : Controller σ := { c with rig := c.rig.adoptLive }.loadSettings store time
  let started := c.sequencer.chipsetInit c.rig.rails reset c.flags.autoboot c.plant
  let c : Controller σ := { c.withPlant started.2 with sequencer := started.1 }
  if c.powerState = .s0 then c.enableFans true else c

end Controller

end BoardWarden
