import Mathlib.Data.List.Induction
import BoardWarden.Proofs.Power.Script

set_option autoImplicit false

namespace BoardWarden

namespace Call

def apReset? : Call → Option Bool
  | setApReset asserted => some asserted
  | _ => none

end Call

def apLine (before : Option Bool) (calls : List Call) : Option Bool :=
  calls.foldl (fun held call => call.apReset?.or held) before

theorem apLine_append (before : Option Bool) (calls calls' : List Call) :
    apLine before (calls ++ calls') = apLine (apLine before calls) calls' := List.foldl_append

theorem apLine_isSome (before : Option Bool) (calls : List Call) (known : before.isSome = true) :
    (apLine before calls).isSome = true := by
  induction calls generalizing before with
  | nil => exact known
  | cons call rest ih => exact ih _ (by simp [known])

theorem apLine_switches (before : Option Bool) (calls : List Call)
    (switches : ∀ call ∈ calls, call.switches = true) : apLine before calls = before := by
  induction calls generalizing before with
  | nil => rfl
  | cons call rest ih =>
    obtain ⟨first, others⟩ := List.forall_mem_cons.1 switches
    have still : call.apReset? = none := by
      cases call <;> first | rfl | cases first
    change apLine (call.apReset?.or before) rest = before
    rw [still, Option.none_or]
    exact ih before others

/-- Every line that is driven finds the AP in reset. -/
def Held : Option Bool → List Call → Prop
  | _, [] => True
  | before, call :: rest =>
    (call.drives.isSome = true → before = some true) ∧ Held (call.apReset?.or before) rest

namespace Held

theorem append {before : Option Bool} {calls calls' : List Call} (h : Held before calls)
    (h' : Held (apLine before calls) calls') : Held before (calls ++ calls') := by
  induction calls generalizing before with
  | nil => exact h'
  | cons call rest ih => exact ⟨h.1, ih h.2 h'⟩

theorem of_switches {calls : List Call} (switches : ∀ call ∈ calls, call.switches = true) :
    Held (some true) calls := by
  induction calls with
  | nil => trivial
  | cons call rest ih =>
    obtain ⟨first, others⟩ := List.forall_mem_cons.1 switches
    refine ⟨fun _ => rfl, ?_⟩
    have same := apLine_switches (some true) [call] (List.forall_mem_singleton.2 first)
    change Held (apLine (some true) [call]) rest
    rw [same]
    exact ih others

theorem of_quiet (before : Option Bool) {calls : List Call}
    (quiet : ∀ call ∈ calls, call.drives = none) : Held before calls := by
  induction calls generalizing before with
  | nil => trivial
  | cons call rest ih =>
    obtain ⟨first, others⟩ := List.forall_mem_cons.1 quiet
    exact ⟨fun drives => by simp [first] at drives, ih _ others⟩

theorem drive {before : Option Bool} {earlier later : List Call} {line : Line} {level : Bool}
    (h : Held before (earlier ++ .driveLine line level :: later)) :
    apLine before earlier = some true := by
  induction earlier generalizing before with
  | nil => exact h.1 rfl
  | cons call rest ih => exact ih h.2

end Held

namespace Sequencer

theorem opening_quiet (s : PowerState) : ∀ call ∈ opening s, call.drives = none := by
  cases s <;> decide

theorem closing_quiet (s s' : PowerState) : ∀ call ∈ closing s s', call.drives = none := by
  cases s <;> cases s' <;> decide

end Sequencer

namespace PowerTrain

open Sequencer (opening closing isWork isWork_switches opening_quiet closing_quiet)

def Fits : PowerState → Option Bool → Prop
  | .s3, held | .s3s5, held => held = some true
  | .s3s0, held | .s0, held => held = some false
  | .s0s3, held => held.isSome = true
  | .g3, held | .g3s5, held | .s5, held | .s5s3, held | .s5g3, held => held ≠ some false

theorem Fits.asserted {s : PowerState} {held : Option Bool} (fits : Fits s held)
    (up : s ∈ [PowerState.s3, .s3s5]) : held = some true := by
  cases s <;> first | exact fits | simp at up

theorem Fits.released {s : PowerState} {held : Option Bool} (fits : Fits s held)
    (up : s ∈ [PowerState.s3s0, .s0]) : held = some false := by
  cases s <;> first | exact fits | simp at up

theorem Fits.kept {s : PowerState} {held : Option Bool} (fits : Fits s held)
    (low : s ∈ [PowerState.s5, .s5g3, .g3, .g3s5]) (known : held.isSome = true) :
    held = some true := by
  obtain ⟨asserted, rfl⟩ := Option.isSome_iff_exists.1 known
  have unreleased : some asserted ≠ some false := by
    cases s <;> first | exact fits | simp at low
  simpa using unreleased

/-- Where the work of a state may drive lines, the AP is in reset once it has begun. -/
theorem work_held {s : PowerState} {held : Option Bool} (fits : Fits s held) {work : List Call}
    (works : ∀ call ∈ work, isWork s call = true) : Held (apLine held (opening s)) work := by
  have switches : ∀ call ∈ work, call.switches = true :=
    fun call listed => isWork_switches (works call listed)
  cases s with
  | s5s3 | s0s3 => exact .of_switches switches
  | s3 | s3s5 =>
    change Held held work
    rw [show held = some true from fits]
    exact .of_switches switches
  | s3s0 | s0 => exact .of_quiet _ fun call listed => Call.still_of_waits (works call listed)
  | _ => exact .of_quiet _ fun call listed => by cases works call listed

theorem Moves.fits {s s' : PowerState} {f f' : Bool} (h : Moves s f s' f') {held : Option Bool}
    (fits : Fits s held) : Fits s' (apLine (apLine held (opening s)) (closing s s')) := by
  cases h with
  | rest | leave | clear | climb | sink | off | turnBack | stay => exact fits
  | primaryUp | primaryFailed | upperUp | suspended => rfl
  | apUp => exact fits
  | apFailed | suspend =>
    rw [show held = some false from fits]
    rfl
  | lowered =>
    rw [show held = some true from fits]
    simp [Fits, apLine, opening, closing, Call.apReset?]

variable {σ : Type} [Board σ]

theorem handle_holds (t : PowerTrain σ) {held : Option Bool} (fits : Fits t.state held) :
    Fits (t.apply .handle).state (apLine held (t.calls .handle)) ∧ Held held (t.calls .handle) := by
  obtain ⟨⟨work, same, works⟩, _⟩ := t.calls_script .handle
  have still := apLine_switches (apLine held (opening t.state)) work
    fun call listed => isWork_switches (works call listed)
  have begun := (Held.of_quiet held (opening_quiet t.state)).append (work_held fits works)
  rw [same]
  refine ⟨?_, begun.append (.of_quiet _ (closing_quiet _ _))⟩
  rw [apLine_append, apLine_append, still]
  exact t.handle_moves.fits fits

theorem pulse_holds (m : Sequencer) {held : Option Bool} (fits : Fits m.state held) :
    Fits m.state (apLine held m.pulse) ∧ Held held m.pulse := by
  cases hs : m.state <;> rw [hs] at fits <;> simp only [Sequencer.pulse, hs]
  case s0 | s3s0 => exact ⟨rfl, .of_quiet _ (by simp [Call.drives])⟩
  all_goals exact ⟨fits, trivial⟩

/-- Every request leaves the reset line as its state has it, and apart from a fault check none drives
a line while the AP is out of reset. -/
theorem apply_holds (t : PowerTrain σ) (q : Request σ) {held : Option Bool}
    (fits : Fits t.state held) :
    Fits (t.apply q).state (apLine held (t.calls q)) ∧
      (q ≠ .serviceFaults → Held held (t.calls q)) := by
  by_cases step : q = .handle
  · subst step
    obtain ⟨fits', drives⟩ := t.handle_holds fits
    exact ⟨fits', fun _ => drives⟩
  · obtain ⟨script, _⟩ := t.calls_script q
    rw [(t.apply_state q step).1]
    cases q with
    | handle => exact absurd rfl step
    | serviceFaults =>
      rw [apLine_switches held _ script]
      exact ⟨fits, fun other => absurd rfl other⟩
    | reset reason =>
      rw [show t.calls (.reset reason) = t.sequencer.pulse from script]
      obtain ⟨fits', drives⟩ := pulse_holds t.sequencer fits
      exact ⟨fits', fun _ => drives⟩
    | _ =>
      rw [show t.calls _ = [] from script]
      exact ⟨fits, fun _ => trivial⟩

theorem run_fits (t : PowerTrain σ) (qs : List (Request σ)) {held : Option Bool}
    (fits : Fits t.state held) : Fits (t.run qs).state (apLine held (t.trace qs)) := by
  induction qs generalizing t held with
  | nil => exact fits
  | cons q rest ih =>
    rw [trace, apLine_append]
    exact ih (t.apply q) (t.apply_holds q fits).1

/-- Once a run has been on the way from S5 to S3, it is there still or the reset line has been
moved. -/
theorem run_moved (t : PowerTrain σ) (qs before : List (Request σ)) (part : before <+: qs)
    (climbs : (t.run before).state = .s5s3) (held : Option Bool) :
    (t.run qs).state = .s5s3 ∨ (apLine held (t.trace qs)).isSome = true := by
  induction qs using List.reverseRecOn with
  | nil =>
    rw [List.prefix_nil.1 part] at climbs
    exact .inl climbs
  | append_singleton qs q ih =>
    rcases List.prefix_concat_iff.1 part with rfl | part
    · exact .inl climbs
    · rw [run_concat, trace_concat, apLine_append]
      rcases ih part with here | known
      · by_cases step : q = .handle
        · subst step
          obtain ⟨⟨work, same, _⟩, _⟩ := (t.run qs).calls_script .handle
          rw [same, here]
          exact .inr (apLine_isSome (some true) _ rfl)
        · exact .inl (((t.run qs).apply_state q step).1.trans here)
      · exact .inr (apLine_isSome _ _ known)

/-- The AP is held in reset whenever the sequencer switches a rail. On every run from G3, whatever
the board answers: each line that is driven, by any request but a fault check, finds the AP in reset;
the AP is in reset in S3 and on the way from there to S5, and in S5, in G3 and on the ways between
them once the run has been on the way from S5 to S3; and it is out of reset in S0 and on the way from
S3 to it. -/
theorem run_holds_ap (table : List Rail) (timing : RailTiming) (plan : PowerPlan)
    (timings : PowerTimings) (plant : Plant σ) (requests : List (Request σ)) :
    let start := fresh table timing plan timings plant
    let state := (start.run requests).state
    let held := apLine none (start.trace requests)
    (∀ before q after, requests = before ++ q :: after → q ≠ .serviceFaults →
        ∀ earlier line level later,
          (start.run before).calls q = earlier ++ .driveLine line level :: later →
          apLine none (start.trace before ++ earlier) = some true) ∧
      (state ∈ [PowerState.s3, .s3s5] → held = some true) ∧
      (state ∈ [PowerState.s5, .s5g3, .g3, .g3s5] → ∀ before, before <+: requests →
        (start.run before).state = .s5s3 → held = some true) ∧
      (state ∈ [PowerState.s3s0, .s0] → held = some false) := by
  intro start state held
  have begun : Fits start.state none := by simp [start, fresh, Sequencer.fresh, PowerTrain.state, Fits]
  have fits : Fits state held := start.run_fits requests begun
  refine ⟨?_, fits.asserted, fun low before part climbs => ?_, fits.released⟩
  · intro before q after _ other earlier line level later split
    have drives := ((start.run before).apply_holds q (start.run_fits before begun)).2 other
    rw [split] at drives
    rw [apLine_append]
    exact drives.drive
  · rcases start.run_moved requests before part climbs none with here | known
    · rw [show state = .s5s3 from here] at low
      simp at low
    · exact fits.kept low known

/-- The carrier goes up to S0 and down again. Its memory rail is raised with the AP in reset, which is
out of it in S0 and back in it below. -/
theorem carrier_holds_ap :
    let start := fresh Carrier.rails RailTiming.builtIn Carrier.plan PowerTimings.builtIn
      ⟨Carrier.bench, Journal.fresh⟩
    let low : List (Request Bench) := .exitHardOff :: List.replicate 3 .handle
    let climb := low ++ [.handle]
    let up := climb ++ [.handle, .handle]
    let fall := up ++ .forceShutdown .host Instant.zero :: List.replicate 5 .handle
    let work := (start.run climb).calls .handle
    (work = work.take 23 ++ .driveLine ⟨6⟩ true :: work.drop 24 ∧
        apLine none (start.trace climb ++ work.take 23) = some true) ∧
      ((start.run climb).state = .s3 ∧ apLine none (start.trace climb) = some true) ∧
      ((start.run up).state = .s0 ∧ apLine none (start.trace up) = some false) ∧
      (start.run fall).state = .s5g3 ∧ apLine none (start.trace fall) = some true := by
  intro start low climb up fall work
  have raised : work = work.take 23 ++ .driveLine ⟨6⟩ true :: work.drop 24 := by decide +kernel
  have s5s3 : (start.run low).state = .s5s3 := by decide +kernel
  have s3 : (start.run climb).state = .s3 := by decide +kernel
  have s0 : (start.run up).state = .s0 := by decide +kernel
  have s5g3 : (start.run fall).state = .s5g3 := by decide +kernel
  have holds := run_holds_ap Carrier.rails RailTiming.builtIn Carrier.plan PowerTimings.builtIn
    ⟨Carrier.bench, Journal.fresh⟩
  refine ⟨⟨raised, ?_⟩, ⟨s3, ?_⟩, ⟨s0, ?_⟩, s5g3, ?_⟩
  · exact (holds up).1 climb .handle [.handle] rfl (by simp) _ _ _ _ raised
  · exact (holds climb).2.1 (by rw [s3]; decide)
  · exact (holds up).2.2.2 (by rw [s0]; decide)
  · exact (holds fall).2.2.1 (by rw [s5g3]; decide) low ⟨_, rfl⟩ s5s3

end PowerTrain

end BoardWarden
