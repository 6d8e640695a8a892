import BoardWarden.Board

set_option autoImplicit false

namespace BoardWarden

inductive Call where
  | sleep (span : Span)
  | readLine (line : Line)
  | driveLine (line : Line) (level : Bool)
  | readMillivolts (channel : Channel)
  | readKelvin (sensor : SensorId)
  | setDuty (fan : FanId) (percent : Nat)
  | setOutput (fan : FanId) (on : Bool)
  | notify (event : ChipsetEvent)
  | setApReset (asserted : Bool)
  | setPowerButton (pressed : Bool)
  | setIdleSleep (allowed : Bool)
  | clearPeriod (fan : FanId)
  deriving DecidableEq

namespace Call

def drives : Call → Option (Line × Bool)
  | driveLine line level => some (line, level)
  | _ => none

def looks : Call → Bool
  | readLine _ | readMillivolts _ | readKelvin _ => true
  | _ => false

def waits : Call → Bool
  | sleep _ => true
  | call => call.looks

def switches : Call → Bool
  | driveLine _ _ => true
  | call => call.waits

theorem waits_of_looks {call : Call} (h : call.looks = true) : call.waits = true := by
  cases call <;> first | rfl | exact h

theorem switches_of_waits {call : Call} (h : call.waits = true) : call.switches = true := by
  cases call <;> first | rfl | exact h

theorem still_of_waits {call : Call} (h : call.waits = true) : call.drives = none := by
  cases call <;> first | rfl | cases h

variable {σ : Type} [Board σ]

def run (b : σ) : Call → σ
  | sleep span => Board.sleep span b
  | readLine line => (Board.readLine line b).2
  | driveLine line level => (Board.driveLine line level b).2
  | readMillivolts channel => (Board.readMillivolts channel b).2
  | readKelvin sensor => (Board.readKelvin sensor b).2
  | setDuty fan percent => Board.setDuty fan percent b
  | setOutput fan on => Board.setOutput fan on b
  | notify event => Board.notify event b
  | setApReset asserted => Board.setApReset asserted b
  | setPowerButton pressed => Board.setPowerButton pressed b
  | setIdleSleep allowed => Board.setIdleSleep allowed b
  | clearPeriod fan => Board.clearPeriod fan b

theorem now_of_looks
    (instant : ∀ (b : σ) (call : Call), call.looks = true → Board.now (call.run b) = Board.now b)
    (calls : List Call) (b : σ) (looks : ∀ call ∈ calls, call.looks = true) :
    Board.now (calls.foldl Call.run b) = Board.now b := by
  induction calls generalizing b with
  | nil => rfl
  | cons call rest ih =>
    obtain ⟨first, others⟩ := List.forall_mem_cons.1 looks
    rw [List.foldl_cons, ih _ others, instant b call first]

end Call

variable {σ : Type} [Board σ]

inductive Quiet (b : σ) : σ → Prop where
  | none : Quiet b b
  | next {b' : σ} (call : Call) (before : Quiet b b') (still : call.drives = Option.none) :
      Quiet b (call.run b')

namespace Quiet

theorem one (b : σ) (call : Call) (still : call.drives = Option.none) : Quiet b (call.run b) :=
  .next call .none still

theorem trans {a b c : σ} (h : Quiet a b) (h' : Quiet b c) : Quiet a c := by
  induction h' with
  | none => exact h
  | next call _ still ih => exact .next call ih still

theorem all (calls : List Call) (b : σ) (still : ∀ call ∈ calls, call.drives = Option.none) :
    Quiet b (calls.foldl Call.run b) := by
  induction calls generalizing b with
  | nil => exact .none
  | cons call rest ih =>
    obtain ⟨first, others⟩ := List.forall_mem_cons.1 still
    exact (one b call first).trans (ih _ others)

theorem invariant {b b' : σ} (h : Quiet b b') (I : σ → Prop)
    (step : ∀ (call : Call) (b : σ), call.drives = Option.none → I b → I (call.run b))
    (first : I b) : I b' := by
  induction h with
  | none => exact first
  | next call _ still ih => exact step call _ still ih

end Quiet

end BoardWarden
