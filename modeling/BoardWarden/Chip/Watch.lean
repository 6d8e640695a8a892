import BoardWarden.Chip.Inbox

set_option autoImplicit false

namespace BoardWarden

structure ButtonWatch where
  /-- The level that was reported, or that the button had at start-up. -/
  pressed : Bool
  /-- When the level is read, if an edge was seen. -/
  settles : Option Instant
  deriving DecidableEq

namespace ButtonWatch

def settleTime : Span := Span.ofMillis 10

def fresh (pressed : Bool) : ButtonWatch := ⟨pressed, none⟩

/-- One look at the button; answers a level that is to be reported. An edge starts the time to
settle, and edges within that time are not seen. -/
def look (w : ButtonWatch) (edge pressed : Bool) (now : Instant) : Option Bool × ButtonWatch :=
  match w.settles with
  | none => (none, if edge then { w with settles := some (now.after settleTime) } else w)
  | some due =>
    if now.micros < due.micros then (none, w)
    else (if pressed = w.pressed then none else some pressed, ⟨pressed, none⟩)

end ButtonWatch

structure TachWatch where
  capture : TachCapture
  /-- Time of the latest edge, in ticks of one microsecond. -/
  lastEdge : Nat
  deriving DecidableEq

namespace TachWatch

def fresh : TachWatch := ⟨TachCapture.fresh, 0⟩

/-- A falling edge, stamped with the low 16 bits of the clock. After a pause that they cannot
measure the capture starts anew. -/
def fall (w : TachWatch) (ticks : Nat) : TachWatch :=
  let capture :=
    if TachCapture.fullScale < ticks - w.lastEdge then w.capture.overflow else w.capture
  ⟨capture.capture (ticks % (TachCapture.fullScale + 1)) TachCapture.fullScale, ticks⟩

def clearPeriod (w : TachWatch) : TachWatch := { w with capture := w.capture.clearPeriod }

def fallAll (w : TachWatch) : List Nat → List TachWatch
  | [] => []
  | ticks :: rest => w.fall ticks :: (w.fall ticks).fallAll rest

end TachWatch

end BoardWarden
