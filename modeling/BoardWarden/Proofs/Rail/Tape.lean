import BoardWarden.Proofs.Calls
import BoardWarden.Proofs.Rail.Views

set_option autoImplicit false

/-!
A board under watch keeps a tape of the calls that it gets, each with the board that it finds.
Watching changes nothing: a view takes the tape away again.
-/

namespace BoardWarden

structure Watched (σ : Type) where
  board : σ
  /-- Latest first. -/
  tape : List (Call × σ)

namespace Watched

variable {σ : Type} [Board σ]

def enter (w : Watched σ) (call : Call) (b : σ) : Watched σ := ⟨b, (call, w.board) :: w.tape⟩

instance : Board (Watched σ) where
  now w := Board.now w.board
  sleep span w := w.enter (.sleep span) (Board.sleep span w.board)
  readLine line w :=
    let level := Board.readLine line w.board
    (level.1, w.enter (.readLine line) level.2)
  driveLine line level w :=
    let done := Board.driveLine line level w.board
    (done.1, w.enter (.driveLine line level) done.2)
  readMillivolts channel w :=
    let millivolts := Board.readMillivolts channel w.board
    (millivolts.1, w.enter (.readMillivolts channel) millivolts.2)
  readKelvin sensor w :=
    let kelvin := Board.readKelvin sensor w.board
    (kelvin.1, w.enter (.readKelvin sensor) kelvin.2)
  setDuty fan percent w := w.enter (.setDuty fan percent) (Board.setDuty fan percent w.board)
  setOutput fan on w := w.enter (.setOutput fan on) (Board.setOutput fan on w.board)
  notify event w := w.enter (.notify event) (Board.notify event w.board)
  setApReset asserted w := w.enter (.setApReset asserted) (Board.setApReset asserted w.board)
  setPowerButton pressed w := w.enter (.setPowerButton pressed) (Board.setPowerButton pressed w.board)
  setIdleSleep allowed w := w.enter (.setIdleSleep allowed) (Board.setIdleSleep allowed w.board)
  tach fan w := Board.tach fan w.board
  clearPeriod fan w := w.enter (.clearPeriod fan) (Board.clearPeriod fan w.board)

theorem run_call (w : Watched σ) (call : Call) : call.run w = w.enter call (call.run w.board) := by
  cases call <;> rfl

end Watched

namespace Plant

variable {σ : Type}

def watch (p : Plant σ) : Plant (Watched σ) := ⟨⟨p.board, []⟩, p.journal⟩

def unwatch (p : Plant (Watched σ)) : Plant σ := ⟨p.board.board, p.journal⟩

end Plant

def View.unwatch (σ : Type) [Board σ] : View (Watched σ) σ Unit where
  see _ p := p.unwatch
  enter _ _ := ()
  now _ _ := rfl
  sleep _ _ _ := rfl
  readLine _ _ _ := rfl
  driveLine _ _ _ _ := rfl
  readMillivolts _ _ _ := rfl
  notify _ _ _ := rfl
  setApReset _ _ _ := rfl
  setIdleSleep _ _ _ := rfl
  recordAt _ _ _ _ _ := rfl

end BoardWarden
