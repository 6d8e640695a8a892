import BoardWarden.Proofs.Power.Routes
import BoardWarden.Proofs.Power.Script

set_option autoImplicit false

namespace BoardWarden

namespace Call

def tells : Call → Bool
  | notify _ | setIdleSleep _ => true
  | _ => false

theorem tells_of_switches {call : Call} (h : call.switches = true) : call.tells = false := by
  cases call <;> first | rfl | cases h

end Call

namespace ChipsetEvent

def calls : ChipsetEvent → List Call
  | resume => [.notify .resume, .setIdleSleep false]
  | suspend => [.notify .suspend, .setIdleSleep true]
  | event => [.notify event]

end ChipsetEvent

namespace PowerTrain

open Sequencer (opening closing isWork)

def passed : PowerState → PowerState → List ChipsetEvent
  | .s5s3, .s3 => [.preInit, .startup]
  | .s3s0, .s0 => [.resume]
  | .s0s3, .s3 => [.suspend]
  | .s3s5, .s5 => [.shutdown]
  | _, _ => []

def milestones : List PowerState → List ChipsetEvent
  | s :: s' :: rest => passed s s' ++ milestones (s' :: rest)
  | _ => []

/-- What may be heard between two visits to G3. -/
def words : List (List ChipsetEvent) :=
  [[],
    [.suspend, .shutdown],
    [.preInit, .startup, .shutdown],
    [.preInit, .startup, .suspend, .shutdown],
    [.preInit, .startup, .resume, .suspend, .shutdown]]

theorem routes_words : ∀ w ∈ routes, milestones (.g3 :: (w ++ [.g3])) ∈ words := by decide

theorem routes_parts : ∀ w ∈ routes, ∀ part ∈ w.inits,
    ∃ word ∈ words, milestones (.g3 :: part) <+: word := by decide

theorem Moves.told {s s' : PowerState} {f f' : Bool} (h : Moves s f s' f') :
    (opening s).filter Call.tells ++ (closing s s').filter Call.tells =
      (passed s s').flatMap ChipsetEvent.calls := by
  cases h <;> rfl

theorem passed_self (s : PowerState) : passed s s = [] := by
  cases s <;> rfl

variable {σ : Type} [Board σ]

theorem untold {calls : List Call} (switches : ∀ call ∈ calls, call.switches = true) :
    calls.filter Call.tells = [] :=
  List.filter_eq_nil_iff.2 fun call listed => by simp [Call.tells_of_switches (switches call listed)]

theorem handle_told (t : PowerTrain σ) : (t.calls .handle).filter Call.tells =
    (passed t.state (t.apply .handle).state).flatMap ChipsetEvent.calls := by
  obtain ⟨⟨work, same, works⟩, _⟩ := t.calls_script .handle
  have silent := untold fun call listed => Sequencer.isWork_switches (works call listed)
  rw [same, List.filter_append, List.filter_append, silent, List.append_nil]
  exact t.handle_moves.told

theorem apply_told (t : PowerTrain σ) (q : Request σ) : (t.calls q).filter Call.tells =
    (passed t.state (t.apply q).state).flatMap ChipsetEvent.calls := by
  by_cases step : q = .handle
  · subst step
    exact t.handle_told
  · obtain ⟨script, _⟩ := t.calls_script q
    rw [(t.apply_state q step).1, passed_self]
    cases q with
    | handle => exact absurd rfl step
    | serviceFaults => exact untold script
    | reset reason =>
      rw [show t.calls (.reset reason) = t.sequencer.pulse from script]
      unfold Sequencer.pulse
      split <;> rfl
    | _ =>
      rw [show t.calls _ = [] from script]
      rfl

theorem run_told (t : PowerTrain σ) (qs : List (Request σ)) : (t.trace qs).filter Call.tells =
    (milestones (t.visits qs)).flatMap ChipsetEvent.calls := by
  induction qs generalizing t with
  | nil => rfl
  | cons q rest ih =>
    rw [trace, List.filter_append, ih, apply_told, visits]
    split
    · rename_i same
      rw [same, passed_self]
      rfl
    · obtain ⟨others, head⟩ := (t.apply q).visits_head rest
      rw [head, milestones, List.flatMap_append]

/-- The AP is told of its milestones by a fixed protocol. On every run the calls that tell it something
are those of the milestones passed: a resume forbids idle sleep and the suspend allows it again,
each at once. From one visit to G3 to the next the milestones form one of five words, and up to any
moment in between a beginning of such a word. -/
theorem run_notices (table : List Rail) (timing : RailTiming) (plan : PowerPlan)
    (timings : PowerTimings) (plant : Plant σ) (before during : List (Request σ)) :
    let t := (fresh table timing plan timings plant).run before
    let told := (t.trace during).filter Call.tells
    told = (milestones (t.visits during)).flatMap ChipsetEvent.calls ∧
      (∀ mid, t.visits during = .g3 :: (mid ++ [.g3]) → .g3 ∉ mid →
        ∃ word ∈ words, told = word.flatMap ChipsetEvent.calls) ∧
      ∀ mid, t.visits during = .g3 :: mid → .g3 ∉ mid →
        ∃ word ∈ words, ∃ part, part <+: word ∧ told = part.flatMap ChipsetEvent.calls := by
  intro t told
  have latched : t.Latched := run_latched _ before (fresh_latched table timing plan timings plant)
  have heard : told = (milestones (t.visits during)).flatMap ChipsetEvent.calls := t.run_told during
  have onRoute : ∀ mid post, t.visits during = .g3 :: (mid ++ post) → .g3 ∉ mid →
      ∃ w ∈ routes, mid <+: w ∧ (post.head? = some .g3 → mid = w) := by
    intro mid post seen out
    obtain ⟨others, head⟩ := t.visits_head during
    have home : t.state = .g3 := by
      rw [head] at seen
      exact (List.cons.inj seen).1
    have ways := t.visits_ways latched during mid post (by rw [home]; exact seen) out
    rw [home] at ways
    exact ways
  refine ⟨heard, fun mid seen out => ?_, fun mid seen out => ?_⟩
  · obtain ⟨w, listed, _, whole⟩ := onRoute mid [.g3] seen out
    rw [heard, seen, whole rfl]
    exact ⟨_, routes_words w listed, rfl⟩
  · obtain ⟨w, listed, part, _⟩ := onRoute mid [] (by rw [List.append_nil]; exact seen) out
    obtain ⟨word, spoken, begun⟩ := routes_parts w listed mid ((List.mem_inits _ _).2 part)
    rw [heard, seen]
    exact ⟨word, spoken, _, begun, rfl⟩

theorem carrier_is_told :
    let start := fresh Carrier.rails RailTiming.builtIn Carrier.plan PowerTimings.builtIn
      ⟨Carrier.bench, Journal.fresh⟩
    let climb : List (Request Bench) := .exitHardOff :: List.replicate 6 .handle
    let during := climb ++ .forceShutdown .host Instant.zero :: List.replicate 6 .handle
    let up := [PowerState.g3s5, .s5, .s5s3, .s3, .s3s0, .s0]
    let mid := up ++ [.s0s3, .s3, .s3s5, .s5, .s5g3]
    (start.visits climb = .g3 :: up ∧ ∃ word ∈ words, ∃ part, part <+: word ∧
        (start.trace climb).filter Call.tells = part.flatMap ChipsetEvent.calls) ∧
      start.visits during = .g3 :: (mid ++ [.g3]) ∧
      (∃ word ∈ words, (start.trace during).filter Call.tells = word.flatMap ChipsetEvent.calls) ∧
      (start.trace during).filter Call.tells =
        [.notify .preInit, .notify .startup, .notify .resume, .setIdleSleep false,
          .notify .suspend, .setIdleSleep true, .notify .shutdown] := by
  intro start climb during up mid
  have climbed : start.visits climb = .g3 :: up := by decide +kernel
  have seen : start.visits during = .g3 :: (mid ++ [.g3]) := by decide +kernel
  have notices := run_notices Carrier.rails RailTiming.builtIn Carrier.plan PowerTimings.builtIn
    ⟨Carrier.bench, Journal.fresh⟩ []
  exact ⟨⟨climbed, (notices climb).2.2 up climbed (by decide)⟩, seen,
    (notices during).2.1 mid seen (by decide), by decide +kernel⟩

end PowerTrain

end BoardWarden
