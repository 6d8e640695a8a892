import BoardWarden.Journal.Basic

set_option autoImplicit false

namespace BoardWarden

structure Plant (σ : Type) where
  board : σ
  journal : Journal

namespace Plant

variable {σ : Type} [Board σ]

def now (p : Plant σ) : Instant := Board.now p.board

def sleep (p : Plant σ) (span : Span) : Plant σ :=
  { p with board := Board.sleep span p.board }

def record (p : Plant σ) (event : Event) (reading : Reading) : Plant σ :=
  { p with journal := p.journal.record event reading p.now }

def note (p : Plant σ) (event : Event) : Plant σ :=
  p.record event .none

/-- Enters an event at a time that was read before. -/
def recordAt (p : Plant σ) (event : Event) (reading : Reading) (time : Instant) : Plant σ :=
  { p with journal := p.journal.record event reading time }

def noteAt (p : Plant σ) (event : Event) (time : Instant) : Plant σ :=
  p.recordAt event .none time

def readLine (p : Plant σ) (line : Line) : Except LineFault Bool × Plant σ :=
  let level := Board.readLine line p.board
  (level.1, { p with board := level.2 })

def driveLine (p : Plant σ) (line : Line) (level : Bool) : Except LineFault Unit × Plant σ :=
  let done := Board.driveLine line level p.board
  (done.1, { p with board := done.2 })

def readMillivolts (p : Plant σ) (channel : Channel) : Except LineFault Nat × Plant σ :=
  let millivolts := Board.readMillivolts channel p.board
  (millivolts.1, { p with board := millivolts.2 })

def readKelvin (p : Plant σ) (sensor : SensorId) : Except SensorFault Nat × Plant σ :=
  let kelvin := Board.readKelvin sensor p.board
  (kelvin.1, { p with board := kelvin.2 })

def setDuty (p : Plant σ) (fan : FanId) (percent : Nat) : Plant σ :=
  { p with board := Board.setDuty fan percent p.board }

def setOutput (p : Plant σ) (fan : FanId) (on : Bool) : Plant σ :=
  { p with board := Board.setOutput fan on p.board }

def notify (p : Plant σ) (event : ChipsetEvent) : Plant σ :=
  { p with board := Board.notify event p.board }

def setApReset (p : Plant σ) (asserted : Bool) : Plant σ :=
  { p with board := Board.setApReset asserted p.board }

def setPowerButton (p : Plant σ) (pressed : Bool) : Plant σ :=
  { p with board := Board.setPowerButton pressed p.board }

def setIdleSleep (p : Plant σ) (allowed : Bool) : Plant σ :=
  { p with board := Board.setIdleSleep allowed p.board }

def tach (p : Plant σ) (fan : FanId) : TachCapture := Board.tach fan p.board

def clearPeriod (p : Plant σ) (fan : FanId) : Plant σ :=
  { p with board := Board.clearPeriod fan p.board }

end Plant

end BoardWarden
