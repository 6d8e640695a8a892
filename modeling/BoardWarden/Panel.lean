import BoardWarden.Fan.Bank

set_option autoImplicit false

/-!
The status panel: what is shown of the whole system, as lines of text. A text is made of pieces,
the units in which a writer of limited room takes or refuses it.
-/

namespace BoardWarden

structure ZoneSnapshot where
  index : Nat
  name : String
  cooling : Bool
  celsius : Option Int
  requirement : Nat
  tending : Bool
  deriving DecidableEq

structure Panel where
  power : PowerState
  forcing : Bool := false
  lastShutdown : Option ShutdownReason := none
  lastReset : Option ResetReason := none
  railsOn : Nat := 0
  railsOff : Nat := 0
  railsFault : Nat := 0
  thermalShutdown : Bool := false
  thermalControl : Bool := true
  demand : Nat := 0
  zones : List ZoneSnapshot := []
  fans : List FanSnapshot := []
  /-- Entries in the journal. -/
  events : Nat := 0
  deriving DecidableEq

namespace Panel

open Text (yesNo)

def powerPieces (s : Panel) : List String :=
  ["power state=", s.power.text, " forcing=", yesNo s.forcing,
    " last-shutdown=", (s.lastShutdown.map ShutdownReason.text).getD "none",
    " last-reset=", (s.lastReset.map ResetReason.text).getD "none"]

def railPieces (s : Panel) : List String :=
  ["supply on=", toString s.railsOn, " off=", toString s.railsOff,
    " fault=", toString s.railsFault]

def thermalPieces (s : Panel) : List String :=
  ["thermal demand=", toString s.demand, "% control=", yesNo s.thermalControl,
    " shutdown=", yesNo s.thermalShutdown]

def temperaturePieces : Option Int → List String
  | some celsius => (if celsius < 0 then ["-"] else []) ++ [toString celsius.natAbs, "C"]
  | none => ["unknown"]

def zonePieces (s : Panel) : List String :=
  (s.zones.filter (·.cooling)).flatMap fun z =>
    ["zone ", toString z.index, " ", z.name, " temp="] ++ temperaturePieces z.celsius ++
      [" demand=", toString z.requirement, "% critical-latch=", yesNo z.tending, "\n"]

def fanPieces (s : Panel) : List String :=
  s.fans.flatMap fun f =>
    ["fan ", "fan", toString f.fan.index, " enabled=", yesNo f.enabled, " mode=", f.mode.text,
      " duty=", toString f.duty, "% target=", toString f.target, " rpm=", toString f.rpm,
      " status=", f.status.text, "\n"]

def pieces (s : Panel) : List String :=
  s.powerPieces ++ ["\n"] ++ s.railPieces ++ ["\n"] ++ s.thermalPieces ++ ["\n"] ++ s.zonePieces ++
    s.fanPieces

def text (s : Panel) : String := String.join s.pieces

end Panel

end BoardWarden
