import BoardWarden.Board

set_option autoImplicit false

namespace BoardWarden

/-- `output` reads high once `enable` has been high for `latency` microseconds. -/
structure Follower where
  enable : Line
  output : Line
  latency : Nat
  deriving DecidableEq

structure Driven where
  level : Bool
  changedAt : Nat
  deriving DecidableEq

structure PwmChannel where
  duty : Nat
  on : Bool
  deriving DecidableEq

def assign {α β : Type} [DecidableEq α] (entries : List (α × β)) (entry : α × β) : List (α × β) :=
  entry :: entries.filter fun e => e.1 != entry.1

namespace Driven

/-- The time of a level moves only when the level does. -/
def drive (d : Driven) (level : Bool) (now : Instant) : Driven :=
  if d.level = level then d else ⟨level, now.micros⟩

def heldFor (d : Driven) (latency : Nat) (now : Instant) : Bool :=
  d.level && decide (latency ≤ now.micros - d.changedAt)

end Driven

def countsPerMinute : Nat := 192000000

/-- Speed of a fan that turns at `perPercent` revolutions a minute for each percent of duty, and
stands still below `stall` or with its output off. -/
def PwmChannel.rpm (c : PwmChannel) (perPercent stall : Nat) : Nat :=
  let rpm := c.duty * perPercent
  if !c.on || decide (rpm < stall) then 0 else rpm

/-- One second of a fan at its tachometer. A fan that is too slow for the timer shows nothing. -/
def TachCapture.turn (t : TachCapture) (rpm : Nat) : TachCapture :=
  if rpm = 0 then t
  else
    let period := countsPerMinute / rpm
    if TachCapture.fullScale < period then t else t.spin period

end BoardWarden
