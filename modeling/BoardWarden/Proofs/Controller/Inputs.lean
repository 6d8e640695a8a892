import BoardWarden.Controller.Run
import BoardWarden.Proofs.Answers
import BoardWarden.Proofs.Power.Train

set_option autoImplicit false

/-!
Everything that reaches a controller, and runs of it in any order. A run may be held to a
condition on each input and on the state that it leads to, so that what happened since some moment
is a run of its own.
-/

namespace BoardWarden.Controller

open Settings (Store)

variable {σ : Type}

inductive FanCommand where
  | mode (mode : FanMode)
  | enable (on : Bool)
  | duty (percent : Nat)
  | target (rpm : Nat)
  | follow (follows : Bool)

inductive Input (σ : Type) where
  | init (store : Store) (reset : ResetFlags)
  | powerButton (pressed : Bool) (time : Instant)
  | resetButton (pressed : Bool) (time : Instant)
  | watchdog (time : Instant)
  | feedback
  | powerOn
  | shutDown (reason : ShutdownReason)
  | reset (reason : ResetReason)
  | faults
  | step
  | poll
  | tick
  | fan (fan : FanId) (command : FanCommand)
  | wait (span : Span)
  /-- The board goes on by itself: time passes, lines and temperatures change. -/
  | outside (change : σ → σ)

def train (c : Controller σ) : PowerTrain σ := ⟨c.sequencer, c.rig⟩

def forcing (c : Controller σ) : Bool := c.sequencer.forcingShutdown

variable [Board σ]

def command (c : Controller σ) (fan : FanId) : FanCommand → Except Halt (Controller σ)
  | .mode mode => .ok { c with fans := c.fans.setMode fan mode }
  | .enable on =>
    let set := c.fans.setEnabled fan on c.plant
    .ok { c.withPlant set.2 with fans := set.1 }
  | .duty percent =>
    let set := c.fans.setDuty fan percent c.plant
    .ok { c.withPlant set.2 with fans := set.1 }
  | .target rpm => (c.fans.setTarget fan rpm).map fun fans => { c with fans }
  | .follow follows => .ok { c with fans := c.fans.setFollowsDemand fan follows }

def apply (c : Controller σ) : Input σ → Except Halt (Controller σ)
  | .init store reset => .ok (c.init store reset)
  | .powerButton pressed time => .ok (c.powerButtonChanged pressed time)
  | .resetButton pressed time => .ok (c.resetButtonChanged pressed time)
  | .watchdog time => .ok (c.watchdogExpired time)
  | .feedback => .ok c.supplyFeedbackChanged
  | .powerOn => .ok c.requestPowerOn.2
  | .shutDown reason => .ok (c.forceShutdown reason)
  | .reset reason => .ok (c.reset reason).2
  | .faults => .ok c.serviceFaults.2
  | .step => .ok c.stepPower
  | .poll => .ok c.pollDeferred.2
  | .tick => c.tickSecond.map Prod.snd
  | .fan fan command => c.command fan command
  | .wait span => .ok (c.withPlant (c.plant.sleep span))
  | .outside change => .ok (c.withBoard (change c.board))

theorem apply_tick {c c' : Controller σ} (applied : c.apply .tick = .ok c') :
    ∃ tick, c.tickSecond = .ok (tick, c') := by
  simp only [apply] at applied
  cases ticked : c.tickSecond with
  | error halt =>
    rw [ticked] at applied
    cases applied
  | ok answer =>
    rw [ticked] at applied
    cases applied
    exact ⟨answer.1, rfl⟩

/-- Inputs lead from one controller to another, each of them and the state after it as `A` says. -/
inductive Run (A : Input σ → Controller σ → Prop) (start : Controller σ) : Controller σ → Prop where
  | start : Run A start start
  | next {c c' : Controller σ} (input : Input σ) (run : Run A start c)
      (applied : c.apply input = .ok c') (held : A input c') : Run A start c'

abbrev Reaches (start c : Controller σ) : Prop := Run (fun _ _ => True) start c

theorem Run.trans {A : Input σ → Controller σ → Prop} {c d e : Controller σ}
    (h : Run A c d) (h' : Run A d e) : Run A c e := by
  induction h' with
  | start => exact h
  | next input _ applied held ih => exact .next input ih applied held

theorem Run.invariant {A : Input σ → Controller σ → Prop} {start c : Controller σ}
    (h : Run A start c) (I : Controller σ → Prop)
    (step : ∀ c input c', I c → c.apply input = .ok c' → A input c' → I c') (first : I start) :
    I c := by
  induction h with
  | start => exact first
  | next input _ applied held ih => exact step _ _ _ ih applied held

/-- Makes the inputs in turn, as long as the test accepts each input and what it leads to. -/
def along (test : Input σ → Controller σ → Bool) : List (Input σ) → Controller σ →
    Option (Controller σ)
  | [], c => some c
  | input :: rest, c =>
    match c.apply input with
    | .error _ => none
    | .ok c' => if test input c' then along test rest c' else none

theorem along_run {A : Input σ → Controller σ → Prop} (test : Input σ → Controller σ → Bool)
    (inputs : List (Input σ))
    (sound : ∀ input ∈ inputs, ∀ c, test input c = true → A input c) (start c c' : Controller σ)
    (run : Run A start c) (h : along test inputs c = some c') : Run A start c' := by
  induction inputs generalizing c with
  | nil =>
    obtain rfl : c = c' := by simpa [along] using h
    exact run
  | cons input rest ih =>
    simp only [along] at h
    split at h
    · cases h
    · rename_i next applied
      split at h
      · rename_i held
        have now : A input next := sound input List.mem_cons_self next held
        exact ih (fun other hm => sound other (List.mem_cons_of_mem _ hm)) next
          (.next input run applied now) h
      · cases h

theorem along_reaches (inputs : List (Input σ)) (start c : Controller σ)
    (h : along (fun _ _ => true) inputs start = some c) : Reaches start c :=
  along_run _ inputs (fun _ _ _ _ => trivial) start start c .start h

def carrier : Controller Bench :=
  fresh Carrier.layout Carrier.fanCount ControllerConfig.builtIn Carrier.bench

def heat (b : Bench) : Bench := b.change { temperatures := [(⟨0⟩, .ok 363)] }

def hotStart : List (Input Bench) :=
  [.init Settings.Store.empty ⟨false, false, false, false⟩, .powerOn] ++ List.replicate 6 .step ++
    [.outside heat]

end BoardWarden.Controller
