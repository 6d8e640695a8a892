import BoardWarden.Plant
import BoardWarden.Rail.Tree
import BoardWarden.Text.Words

set_option autoImplicit false

namespace BoardWarden

structure RailTiming where
  /-- How long a rail may take to confirm its power. -/
  stepTimeout : Span
  poll : Span
  deriving DecidableEq

def RailTiming.builtIn : RailTiming := ⟨Span.ofMillis 50, Span.ofMillis 1⟩

structure RailBank where
  table : List Rail
  /-- Book entries, in the order of the table. -/
  states : List RailState
  timing : RailTiming
  faultCheckPending : Bool

namespace RailBank

/-- All rails off. Rows past the limit are not supervised. -/
def ofTable (table : List Rail) (timing : RailTiming) : RailBank :=
  { table := table.take Rail.limit
    states := (table.take Rail.limit).map fun _ => .off
    timing
    faultCheckPending := false }

def row? (b : RailBank) (rail : RailId) : Option Rail := b.table[rail.index]?

def letters (b : RailBank) : String := String.join (b.states.map RailState.letter)

def state? (b : RailBank) (rail : RailId) : Option RailState := b.states[rail.index]?

def setState (b : RailBank) (rail : RailId) (state : RailState) : RailBank :=
  { b with states := b.states.set rail.index state }

def rails (b : RailBank) : List RailId :=
  (List.range b.states.length).map RailId.mk

def requestFaultCheck (b : RailBank) : RailBank :=
  { b with faultCheckPending := true }

def lookup (b : RailBank) (name : String) : Option RailId :=
  (b.table.findIdx? fun row => Text.sameLetters row.name name).map RailId.mk

variable {σ : Type} [Board σ]

/-- A line that cannot be read counts as off. -/
def enabled (row : Rail) (p : Plant σ) : Bool × Plant σ :=
  let level := p.readLine row.enable.line
  (match level.1 with
    | .ok high => high != row.enable.activeLow
    | .error _ => false, level.2)

/-- A feedback that cannot be read confirms nothing. -/
def confirmed (row : Rail) (p : Plant σ) : Bool × Plant σ :=
  match row.feedback with
  | .none => (true, p)
  | .analog channel minMillivolts =>
    let sample := p.readMillivolts channel
    (match sample.1 with
      | .ok millivolts => decide (minMillivolts ≤ millivolts)
      | .error _ => false, sample.2)
  | .powerGood line =>
    let level := p.readLine line
    (match level.1 with
      | .ok high => high
      | .error _ => false, level.2)

def status (b : RailBank) (rail : RailId) (p : Plant σ) : RailStatus × Plant σ :=
  match b.row? rail with
  | none => (.off, p)
  | some row =>
    let enable := enabled row p
    if enable.1 then
      let feedback := confirmed row enable.2
      (if feedback.1 then .on else .fault, feedback.2)
    else (.off, enable.2)

def voltage (b : RailBank) (rail : RailId) (p : Plant σ) : Option Nat × Plant σ :=
  match b.row? rail with
  | none => (none, p)
  | some row =>
    match row.feedback with
    | .analog channel _ =>
      let sample := p.readMillivolts channel
      (sample.1.toOption, sample.2)
    | _ => (none, p)

def drive (rail : RailId) (row : Rail) (on : Bool) (p : Plant σ) : Except RailError Unit × Plant σ :=
  let done := p.driveLine row.enable.line (row.enable.level on)
  (match done.1 with
    | .ok () => .ok ()
    | .error _ => .error (.controlFailed rail), done.2)

/-- Switches a rail. A rail that is not a root is raised only while its parent is live. -/
def control (b : RailBank) (rail : RailId) (on : Bool) (p : Plant σ) :
    Except RailError Unit × Plant σ :=
  match b.row? rail with
  | none => (.error (.unknown rail), p)
  | some row =>
    if on && row.parent != rail then
      let parent := b.status row.parent p
      if parent.1 = .on then drive rail row on parent.2
      else (.error (.parentNotReady rail), parent.2)
    else drive rail row on p

/-- Whether every rail of a sequence is live; looks no further than the first that is not. -/
def allOn (b : RailBank) : List Step → Plant σ → Bool × Plant σ
  | [], p => (true, p)
  | step :: rest, p =>
    let live := b.status step.rail p
    if live.1 = .on then b.allOn rest live.2 else (false, live.2)

end RailBank

end BoardWarden
