import BoardWarden.Controller.Run
import BoardWarden.Panel
import BoardWarden.Rail.Report

set_option autoImplicit false

namespace BoardWarden.Controller

variable {σ : Type} [Board σ]

def countRails (b : RailBank) : List RailId → Nat × Nat × Nat → Plant σ → (Nat × Nat × Nat) × Plant σ
  | [], counts, p => (counts, p)
  | rail :: rest, (on, off, fault), p =>
    let live := b.status rail p
    let counts :=
      match live.1 with
      | .on => (on + 1, off, fault)
      | .off => (on, off + 1, fault)
      | .fault => (on, off, fault + 1)
    countRails b rest counts live.2

def zoneSnapshots (zones : List Zone) : List ZoneSnapshot :=
  zones.mapIdx fun index z =>
    { index
      name := z.definition.name
      cooling := z.cooling
      celsius := z.lastCelsius
      requirement := z.requirement
      tending := z.tending }

def panel (c : Controller σ) : Except Halt (Panel × Controller σ) :=
  let counted := countRails c.rig.rails c.rig.rails.rails (0, 0, 0) c.plant
  (c.fans.snapshots counted.2).map fun fans =>
  ({ power := c.powerState
     forcing := c.sequencer.forcingShutdown
     lastShutdown := c.sequencer.lastShutdown
     lastReset := c.sequencer.lastReset
     railsOn := counted.1.1
     railsOff := counted.1.2.1
     railsFault := counted.1.2.2
     thermalShutdown := c.cooling.inShutdown
     thermalControl := c.fans.allFollow
     demand := c.cooling.aggregate
     zones := zoneSnapshots c.cooling.zones
     fans
     events := c.journal.entries.length },
    c.withPlant counted.2)

def report (c : Controller σ) : String × Controller σ :=
  let text := c.rig.report
  (text.1, { c with rig := text.2 })

end BoardWarden.Controller
