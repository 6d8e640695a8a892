import BoardWarden.Rail.Bank

set_option autoImplicit false

/-!
Switching rails under supervision. A rail counts as on only after its feedback confirmed it;
a sequence is raised step by step and lowered in reverse, and a fault check takes down every
rail that was on and has lost its feedback.
-/

namespace BoardWarden

structure Rig (σ : Type) where
  plant : Plant σ
  rails : RailBank

namespace Rig

variable {σ : Type} [Board σ]

def setState (r : Rig σ) (rail : RailId) (state : RailState) : Rig σ :=
  { r with rails := r.rails.setState rail state }

def sleep (r : Rig σ) (span : Span) : Rig σ :=
  { r with plant := r.plant.sleep span }

def record (r : Rig σ) (event : Event) (reading : Reading) : Rig σ :=
  { r with plant := r.plant.record event reading }

def note (r : Rig σ) (event : Event) : Rig σ :=
  { r with plant := r.plant.note event }

def status (r : Rig σ) (rail : RailId) : RailStatus × Rig σ :=
  let live := r.rails.status rail r.plant
  (live.1, { r with plant := live.2 })

def voltage (r : Rig σ) (rail : RailId) : Option Nat × Rig σ :=
  let sample := r.rails.voltage rail r.plant
  (sample.1, { r with plant := sample.2 })

def control (r : Rig σ) (rail : RailId) (on : Bool) : Except RailError Unit × Rig σ :=
  let done := r.rails.control rail on r.plant
  (done.1, { r with plant := done.2 })

/-- Polls until the rail is live or the deadline has come. With a poll interval of at least one
microsecond, `fuel` microseconds to the deadline are enough. -/
def awaitOn (rail : RailId) (deadline : Instant) : Nat → Rig σ → Rig σ
  | 0, r => (r.status rail).2
  | fuel + 1, r =>
    let live := r.status rail
    if live.1 = .on || decide (deadline.micros ≤ live.2.plant.now.micros) then live.2
    else awaitOn rail deadline fuel (live.2.sleep live.2.rails.timing.poll)

def confirmOn (r : Rig σ) (rail : RailId) (timeout : Span) : Except RailError Unit × Rig σ :=
  let deadline := r.plant.now.after timeout
  let live := (awaitOn rail deadline (deadline.micros - r.plant.now.micros) r).status rail
  if live.1 = .on then (.ok (), (live.2.setState rail .on).note (.supplyOn rail))
  else
    let sample := (live.2.setState rail .pgTimeout).voltage rail
    (.error (.powerGoodTimeout rail),
      sample.2.record (.supplyFailed rail) (.rail .pgTimeout sample.1))

def failTurnOn (r : Rig σ) (rail : RailId) (error : RailError) : Rig σ :=
  (r.setState rail .turnOnFailed).record
    (match error with
      | .parentNotReady _ => .supplyParentOff rail
      | _ => .supplyFailed rail)
    (.rail .turnOnFailed none)

def powerOn (r : Rig σ) (rail : RailId) (settle timeout : Span) : Except RailError Unit × Rig σ :=
  match r.rails.state? rail with
  | none => (.error (.unknown rail), r)
  | some .on => (.ok (), r)
  | some _ =>
    let raised := (r.setState rail .turningOn).control rail true
    match raised.1 with
    | .error error => (.error error, raised.2.failTurnOn rail error)
    | .ok () =>
      (if settle = Span.zero then raised.2 else raised.2.sleep settle).confirmOn rail timeout

/-- The rail is entered as off whether or not its line can be released. -/
def powerOff (r : Rig σ) (rail : RailId) : Except RailError Unit × Rig σ :=
  match r.rails.row? rail with
  | none => (.error (.unknown rail), r)
  | some _ => (r.setState rail .off).control rail false

def raise (timeout : Span) : List Step → Rig σ → Except RailError Unit × Rig σ
  | [], r => (.ok (), r)
  | step :: rest, r =>
    let raised := r.powerOn step.rail step.settle timeout
    match raised.1 with
    | .error error => (.error error, raised.2.note (.sequenceFailed step.rail))
    | .ok () => raise timeout rest raised.2

/-- Looks at every rail once more and marks those that are no longer live; the first of them is
the error. -/
def verify : List Step → Rig σ → Except RailError Unit × Rig σ
  | [], r => (.ok (), r)
  | step :: rest, r =>
    let live := r.status step.rail
    if live.1 = .on then verify rest live.2
    else
      (.error (.regressed step.rail),
        (verify rest ((live.2.setState step.rail .fault).note (.sequenceFailed step.rail))).2)

def sequenceOnWithin (r : Rig σ) (steps : List Step) (timeout : Span) :
    Except RailError Unit × Rig σ :=
  let raised := raise timeout steps r
  match raised.1 with
  | .error error => (.error error, raised.2)
  | .ok () => verify steps raised.2

def sequenceOn (r : Rig σ) (steps : List Step) : Except RailError Unit × Rig σ :=
  r.sequenceOnWithin steps r.rails.timing.stepTimeout

/-- Lowers every rail in turn; the first error is kept. -/
def lower : List Step → Rig σ → Except RailError Unit × Rig σ
  | [], r => (.ok (), r)
  | step :: rest, r =>
    let lowered := r.powerOff step.rail
    let others := lower rest lowered.2
    (match lowered.1 with
      | .error error => .error error
      | .ok () => others.1, others.2)

def sequenceOff (r : Rig σ) (steps : List Step) : Except RailError Unit × Rig σ :=
  lower steps.reverse r

def adoptLive (r : Rig σ) : Rig σ :=
  r.rails.rails.foldl
    (fun r rail =>
      let live := r.status rail
      live.2.setState rail
        (match live.1 with
          | .on => .on
          | .off => .off
          | .fault => .fault))
    r

def demote (r : Rig σ) (rail : RailId) : Rig σ :=
  let sample := (r.setState rail .fault).voltage rail
  ((sample.2.record (.supplyFault rail) (.rail .fault sample.1)).control rail false).2

/-- Demotes, in the order given, the rails that are entered as on and are live faulted. -/
def demoteFaulted : List RailId → Rig σ → List RailId × Rig σ
  | [], r => ([], r)
  | rail :: rest, r =>
    if r.rails.state? rail = some .on then
      let live := r.status rail
      if live.1 = .fault then
        let others := demoteFaulted rest (live.2.demote rail)
        (rail :: others.1, others.2)
      else demoteFaulted rest live.2
    else demoteFaulted rest r

def runFaultCheck (r : Rig σ) : List RailId × Rig σ :=
  demoteFaulted r.rails.rails { r with rails := { r.rails with faultCheckPending := false } }

end Rig

end BoardWarden
