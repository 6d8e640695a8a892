import BoardWarden.Proofs.Fan.Ranges

set_option autoImplicit false

namespace BoardWarden

open Settings (FanLimits)

structure Tached (σ : Type) where
  board : σ
  tachs : FanId → TachCapture

namespace Tached

variable {σ : Type}

def setTach (t : Tached σ) (fan : FanId) (capture : TachCapture) : Tached σ :=
  { t with tachs := fun other => if other = fan then capture else t.tachs other }

variable [Board σ]

instance : Board (Tached σ) where
  now t := Board.now t.board
  sleep span t := { t with board := Board.sleep span t.board }
  readLine line t :=
    let level := Board.readLine line t.board
    (level.1, { t with board := level.2 })
  driveLine line level t :=
    let done := Board.driveLine line level t.board
    (done.1, { t with board := done.2 })
  readMillivolts channel t :=
    let millivolts := Board.readMillivolts channel t.board
    (millivolts.1, { t with board := millivolts.2 })
  readKelvin sensor t :=
    let kelvin := Board.readKelvin sensor t.board
    (kelvin.1, { t with board := kelvin.2 })
  setDuty fan percent t := { t with board := Board.setDuty fan percent t.board }
  setOutput fan on t := { t with board := Board.setOutput fan on t.board }
  notify event t := { t with board := Board.notify event t.board }
  setApReset asserted t := { t with board := Board.setApReset asserted t.board }
  setPowerButton pressed t := { t with board := Board.setPowerButton pressed t.board }
  setIdleSleep allowed t := { t with board := Board.setIdleSleep allowed t.board }
  tach fan t := t.tachs fan
  clearPeriod fan t :=
    ({ t with board := Board.clearPeriod fan t.board } : Tached σ).setTach fan
      (t.tachs fan).clearPeriod

end Tached

namespace Plant

variable {σ : Type}

def tached (p : Plant σ) : Plant (Watched (Tached σ)) :=
  (⟨⟨p.board, fun _ => TachCapture.fresh⟩, p.journal⟩ : Plant (Tached σ)).watch

def setTach (p : Plant (Watched (Tached σ))) (fan : FanId) (capture : TachCapture) :
    Plant (Watched (Tached σ)) :=
  { p with board := { p.board with board := p.board.board.setTach fan capture } }

def marks (p : Plant (Watched (Tached σ))) (fan : FanId) : Option Nat :=
  (p.board.board.tachs fan).mark

def Counted (p : Plant (Watched (Tached σ))) (top : FanId → Nat) : Prop :=
  ∀ fan n, p.marks fan = some n → n ≤ top fan

theorem Counted.of_marks {p p' : Plant (Watched (Tached σ))} {top : FanId → Nat} (h : p.Counted top)
    (same : p'.marks = p.marks) : p'.Counted top := by
  intro fan n marked
  rw [same] at marked
  exact h fan n marked

theorem Counted.setTach {p : Plant (Watched (Tached σ))} {top : FanId → Nat} (h : p.Counted top)
    {fan : FanId} {capture : TachCapture} (here : ∀ n, capture.mark = some n → n ≤ top fan) :
    (p.setTach fan capture).Counted top := by
  intro other n marked
  simp only [marks, Plant.setTach, Tached.setTach] at marked
  split at marked
  · rename_i same
    subst same
    exact here n marked
  · exact h other n marked

variable [Board σ] (p : Plant (Watched (Tached σ))) (fan : FanId)

@[simp] theorem marks_setDuty (duty : Nat) : (p.setDuty fan duty).marks = p.marks := rfl

@[simp] theorem marks_setOutput (on : Bool) : (p.setOutput fan on).marks = p.marks := rfl

omit [Board σ] in
@[simp] theorem marks_recordAt (event : Event) (reading : Reading) (time : Instant) :
    (p.recordAt event reading time).marks = p.marks := rfl

@[simp] theorem marks_clearPeriod : (p.clearPeriod fan).marks = p.marks := by
  funext other
  change TachCapture.mark (if other = fan then _ else _) = _
  split
  · rename_i same
    rw [same]
    rfl
  · rfl

end Plant

namespace FanBank

variable {σ : Type} [Board σ]

omit [Board σ] in
theorem stepChannels_marks
    {step : FanId → FanChannel → Plant (Watched (Tached σ)) →
      FanChannel × Plant (Watched (Tached σ))}
    (kept : ∀ fan c p, (step fan c p).2.marks = p.marks) (first : Nat) (channels : List FanChannel)
    (p : Plant (Watched (Tached σ))) : (stepChannels step first channels p).2.marks = p.marks := by
  induction channels generalizing first p with
  | nil => rfl
  | cons c rest ih => exact (ih _ _).trans (kept _ c p)

theorem checkChannel_marks (fan : FanId) (powered : Bool) (time : Instant) (c : FanChannel)
    (p : Plant (Watched (Tached σ))) :
    (checkChannel fan powered time c p).2.marks = p.marks := by
  simp only [checkChannel]
  repeat' split
  all_goals simp

theorem controlChannel_marks (config : FanConfig) (fan : FanId) (time : Instant) (c : FanChannel)
    (p : Plant (Watched (Tached σ))) :
    (controlChannel config fan time c p).2.marks = p.marks := by
  simp only [controlChannel]
  repeat' split
  all_goals simp

end FanBank

namespace FanOp

variable {σ : Type}

def sparing (tachs : FanId → TachCapture) : FanOp (Tached σ) → FanOp (Tached σ)
  | outside board journal => outside { board with tachs } journal
  | op => op

variable [Board σ]

theorem apply_marks (op : FanOp (Tached σ)) {b b' : FanBank} {p p' : Plant (Watched (Tached σ))}
    (applied : (op.sparing p.board.board.tachs).apply b p = .ok (b', p')) : p'.marks = p.marks := by
  cases op with
  | enable fan on =>
    cases applied
    simp only [FanBank.setEnabled]
    repeat' split
    all_goals simp
  | duty fan percent =>
    cases applied
    simp only [FanBank.setDuty]
    split <;> simp
  | target fan rpm | demand fan percent | demandAll percent =>
    obtain ⟨d, _, same⟩ := map_ok applied
    cases same
    rfl
  | health powered time =>
    cases applied
    exact FanBank.stepChannels_marks
      (fun fan c p => FanBank.checkChannel_marks fan powered time c p) 0 b.channels p
  | control powered time =>
    cases applied
    simp only [FanBank.controlTick]
    split
    · exact FanBank.stepChannels_marks
        (fun fan c p => FanBank.controlChannel_marks b.config fan time c p) 0 b.channels p
    · rfl
  | mode fan mode | follow fan follows | loadLimits store time | outside board journal =>
    cases applied
    rfl

end FanOp

inductive FanEvent (σ : Type) where
  | driver (op : FanOp (Tached σ))
  /-- An edge at this counter of a timer that wraps after its reload value. -/
  | edge (fan : FanId) (counter reload : Nat)
  /-- An edge was lost. -/
  | overrun (fan : FanId)

namespace FanEvent

variable {σ : Type}

def Within (top : FanId → Nat) : FanEvent σ → Prop
  | edge fan counter reload =>
    counter ≤ top fan ∧ top fan ≤ reload ∧ reload ≤ TachCapture.fullScale
  | _ => True

variable [Board σ]

def apply (event : FanEvent σ) (b : FanBank) (p : Plant (Watched (Tached σ))) :
    Except Halt (FanBank × Plant (Watched (Tached σ))) :=
  match event with
  | driver op => (op.sparing p.board.board.tachs).apply b p
  | edge fan counter reload => .ok (b, p.setTach fan ((p.tach fan).capture counter reload))
  | overrun fan => .ok (b, p.setTach fan (p.tach fan).overflow)

def onWords? (event : FanEvent σ) (b : FanBank) (p : Plant (Watched (Tached σ))) :
    Option (Except Halt (FanBank × Plant (Watched (Tached σ)))) :=
  match event with
  | driver op => (op.sparing p.board.board.tachs).onWords? b p
  | edge fan counter reload =>
    ((p.tach fan).capture? counter reload).map fun capture => .ok (b, p.setTach fan capture)
  | overrun fan => some (.ok (b, p.setTach fan (p.tach fan).overflow))

def run : List (FanEvent σ) → FanBank → Plant (Watched (Tached σ)) →
    Except Halt (FanBank × Plant (Watched (Tached σ)))
  | [], b, p => .ok (b, p)
  | event :: rest, b, p =>
    match event.apply b p with
    | .error halt => .error halt
    | .ok (b, p) => run rest b p

def run? : List (FanEvent σ) → FanBank → Plant (Watched (Tached σ)) →
    Option (Except Halt (FanBank × Plant (Watched (Tached σ))))
  | [], b, p => some (.ok (b, p))
  | event :: rest, b, p =>
    match event.onWords? b p with
    | none => none
    | some (.error halt) => some (.error halt)
    | some (.ok (b, p)) => run? rest b p

variable {b : FanBank} {p : Plant (Watched (Tached σ))} {top : FanId → Nat}

theorem apply_fits {event : FanEvent σ} (h : b.InRange) (counted : p.Counted top)
    (within : event.Within top) :
    ∃ b' p', event.onWords? b p = some (.ok (b', p')) ∧ event.apply b p = .ok (b', p') ∧
      b'.InRange ∧ p'.Counted top := by
  cases event with
  | driver op =>
    obtain ⟨b', p', applied?, applied, inside⟩ :=
      (op.sparing p.board.board.tachs).apply_fits h p
    exact ⟨b', p', applied?, applied, inside, counted.of_marks (op.apply_marks applied)⟩
  | edge fan counter reload =>
    obtain ⟨inside, reached, scale⟩ := within
    have fits : (p.tach fan).captureFits counter reload = true :=
      TachCapture.captureFits_of_mark
        (fun n marked => Nat.le_trans (counted fan n marked) reached) counter
    have captured : (p.tach fan).capture? counter reload =
        some ((p.tach fan).capture counter reload) := by
      rw [TachCapture.capture?_eq _ (Nat.le_trans inside (Nat.le_trans reached scale)) scale,
        if_pos fits]
    simp only [onWords?, apply, captured, Option.map_some]
    refine ⟨b, _, rfl, rfl, h, counted.setTach fun n marked => ?_⟩
    obtain rfl : counter = n := Option.some.inj marked
    exact inside
  | overrun fan =>
    exact ⟨b, _, rfl, rfl, h, counted.setTach fun n marked => by cases marked⟩

theorem run_fits (events : List (FanEvent σ)) (h : b.InRange) (counted : p.Counted top)
    (within : ∀ event ∈ events, event.Within top) :
    ∃ b' p', run? events b p = some (.ok (b', p')) ∧ run events b p = .ok (b', p') ∧
      b'.InRange := by
  induction events generalizing b p with
  | nil => exact ⟨b, p, rfl, rfl, h⟩
  | cons event rest ih =>
    obtain ⟨first, others⟩ := List.forall_mem_cons.1 within
    obtain ⟨b', p', applied?, applied, inside, counted'⟩ := apply_fits h counted first
    simp only [run?, run, applied?, applied]
    exact ih inside counted' others

/-- Fan arithmetic stays within machine words. From a fresh start with valid built-in limits and with
the timing that the program is built with, every run of operations and captures comes on words to the
end that it has on numbers: no result leaves its word, nothing is divided by zero, and no target meets
limits in the wrong order. What may then be asked of a fan is computed within words as well. -/
theorem arithmetic_fits (count : Nat) (limits : FanLimits) (valid : limits.valid = true)
    (config : FanConfig) (timed : config.Timed) (plant : Plant σ) (top : FanId → Nat)
    (events : List (FanEvent σ)) (within : ∀ event ∈ events, event.Within top) :
    ∃ b p, run? events (FanBank.ofCount count limits config) plant.tached = some (.ok (b, p)) ∧
      run events (FanBank.ofCount count limits config) plant.tached = .ok (b, p) ∧
      ∀ fan, b.measured? fan p = some (b.measured fan p) ∧
        (∀ percent, b.rpmOfPercent? fan percent = some (b.rpmOfPercent fan percent)) ∧
        ∀ rpm, b.percentOfRpm? fan rpm = some (b.percentOfRpm fan rpm) := by
  have fresh : plant.tached.Counted top := fun _ _ marked => by cases marked
  obtain ⟨b, p, ran?, ran, inside⟩ :=
    run_fits events (FanBank.ofCount_inRange count valid timed.roomy) fresh within
  exact ⟨b, p, ran?, ran, fun fan => ⟨inside.measured?_eq fan p, inside.rpmOfPercent?_eq fan,
    inside.percentOfRpm?_eq fan⟩⟩

/-- The first fan of the carrier is locked to its target by two edges with a wrap in between, and is
then shown to be too fast. -/
def overtaking : List (FanEvent Bench) :=
  [.driver (.enable ⟨0⟩ true), .driver (.target ⟨0⟩ 9600), .edge ⟨0⟩ 60000 65535,
    .edge ⟨0⟩ 14464 65535, .driver (.health true Instant.zero),
    .driver (.control true Instant.zero), .edge ⟨0⟩ 29464 65535,
    .driver (.control true Instant.zero), .overrun ⟨0⟩]

theorem carrier_fits :
    FanLimits.builtIn.valid = true ∧ FanConfig.builtIn.Timed ∧
      (∀ event ∈ overtaking, event.Within fun _ => 65535) ∧
      ∃ b p, run? overtaking
          (FanBank.ofCount Carrier.fanCount FanLimits.builtIn FanConfig.builtIn)
          (⟨Carrier.bench, Journal.fresh⟩ : Plant Bench).tached = some (.ok (b, p)) ∧
        b.measured? ⟨0⟩ p = some 12720 ∧
        (b.channel? ⟨0⟩).map (fun c => (c.status, c.lastError)) = some (.locked, -31) := by
  have valid : FanLimits.builtIn.valid = true := by decide
  have timed : FanConfig.builtIn.Timed := .inl rfl
  have within : ∀ event ∈ overtaking, event.Within fun _ => 65535 := by
    simp [overtaking, Within, TachCapture.fullScale]
  obtain ⟨b, p, ran?, ran, asked⟩ := arithmetic_fits Carrier.fanCount FanLimits.builtIn valid
    FanConfig.builtIn timed (⟨Carrier.bench, Journal.fresh⟩ : Plant Bench) (fun _ => 65535)
    overtaking within
  obtain ⟨_, ran', speed, channel⟩ : ∃ last, run overtaking
        (FanBank.ofCount Carrier.fanCount FanLimits.builtIn FanConfig.builtIn)
        (⟨Carrier.bench, Journal.fresh⟩ : Plant Bench).tached = .ok last ∧
      last.1.measured ⟨0⟩ last.2 = 12720 ∧
      (last.1.channel? ⟨0⟩).map (fun c => (c.status, c.lastError)) = some (.locked, -31) := by
    decide +kernel
  rw [ran] at ran'
  cases ran'
  refine ⟨valid, timed, within, b, p, ran?, ?_, channel⟩
  rw [(asked ⟨0⟩).1, speed]

end FanEvent

end BoardWarden
