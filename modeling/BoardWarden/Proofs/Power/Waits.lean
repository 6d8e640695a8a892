import Mathlib.Data.Nat.Find
import Mathlib.Logic.Function.Iterate
import BoardWarden.Bench.Basic
import BoardWarden.Proofs.Quiet

set_option autoImplicit false

namespace BoardWarden

/-- Of the looks up to the last, the first that passes the test, or the last if none does. -/
structure Stops (passes : Nat → Prop) (last k : Nat) : Prop where
  within : k ≤ last
  passes_or_last : passes k ∨ k = last
  first : ∀ i < k, ¬ passes i

namespace Stops

variable {passes : Nat → Prop} {last k : Nat}

theorem exists_stop (passes : Nat → Prop) (last : Nat) : ∃ k, Stops passes last k := by
  classical
  have some_stop : ∃ k, passes k ∨ k = last := ⟨last, .inr rfl⟩
  exact ⟨Nat.find some_stop, Nat.find_min' some_stop (.inr rfl), Nat.find_spec some_stop,
    fun i below passed => Nat.find_min some_stop below (.inl passed)⟩

theorem passes_iff (stop : Stops passes last k) : passes k ↔ ∃ j ≤ last, passes j := by
  refine ⟨fun passed => ⟨k, stop.within, passed⟩, fun ⟨j, bound, passed⟩ => ?_⟩
  rcases stop.passes_or_last with passed' | at_last
  · exact passed'
  · have reached : k ≤ j := Nat.not_lt.1 fun below => stop.first j below passed
    have same : j = k := by omega
    exact same ▸ passed

theorem eq_first (stop : Stops passes last k) {j : Nat} (bound : j ≤ last) (passed : passes j)
    (least : ∀ i < j, ¬ passes i) : k = j := by
  have passed' : passes k := stop.passes_iff.2 ⟨j, bound, passed⟩
  have not_after : ¬ j < k := fun below => stop.first j below passed
  have not_before : ¬ k < j := fun below => least k below passed'
  omega

theorem eq_last (stop : Stops passes last k) (never : ∀ j ≤ last, ¬ passes j) : k = last :=
  stop.passes_or_last.resolve_left (never k stop.within)

end Stops

section Poll

variable {α : Type} (look : α → Bool × α) (late : α → Bool) (pause : α → α)

/-- The shape of a wait: looks, and pauses before the next look unless it has seen enough or it is
late. -/
def poll : Nat → α → Bool × α
  | 0, a => look a
  | turns + 1, a =>
    let seen := look a
    if seen.1 || late seen.2 then seen else poll turns (pause seen.2)

/-- A measure that no look raises and that every pause lowers bounds the turns of a wait. -/
theorem poll_settles (I : α → Prop) (left : α → Nat)
    (looks : ∀ a, I a → I (look a).2 ∧ left (look a).2 ≤ left a)
    (pauses : ∀ a, I a → late a = false → I (pause a) ∧ left (pause a) < left a)
    (ends : ∀ a, I a → left a = 0 → late a = true) (extra turns : Nat) (a : α) (fine : I a)
    (enough : left a ≤ turns) :
    poll look late pause (turns + extra) a = poll look late pause turns a := by
  induction turns generalizing a with
  | zero =>
    cases extra with
    | zero => rfl
    | succ extra =>
      obtain ⟨fine', lower⟩ := looks a fine
      have done := ends (look a).2 fine' (by omega)
      rw [Nat.zero_add]
      simp only [poll, done, Bool.or_true, ↓reduceIte]
  | succ turns ih =>
    obtain ⟨fine', lower⟩ := looks a fine
    rw [Nat.succ_add]
    simp only [poll]
    split
    · rfl
    · rename_i waits
      simp only [Bool.or_eq_true, not_or, Bool.not_eq_true] at waits
      obtain ⟨fine'', closer⟩ := pauses (look a).2 fine' waits.2
      exact ih (pause (look a).2) fine'' (by omega)

/-- A wait whose looks change nothing ends with the first look that has seen enough or is late. -/
theorem poll_ends (k turns : Nat) (enough : k ≤ turns) (a : α)
    (waits : ∀ i < k, look (pause^[i] a) = (false, pause^[i] a) ∧ late (pause^[i] a) = false)
    (stops : (look (pause^[k] a)).1 = true ∨ late (look (pause^[k] a)).2 = true) :
    poll look late pause turns a = look (pause^[k] a) := by
  induction k generalizing turns a with
  | zero =>
    cases turns with
    | zero => rfl
    | succ turns =>
      have ended : ((look a).1 || late (look a).2) = true := Bool.or_eq_true .. ▸ stops
      simp only [poll, ended, ↓reduceIte]
      rfl
  | succ k ih =>
    obtain ⟨turns, rfl⟩ := Nat.exists_eq_add_of_le' (Nat.lt_of_lt_of_le (Nat.succ_pos k) enough)
    obtain ⟨seen, early⟩ := waits 0 (Nat.succ_pos k)
    have seen' : look a = (false, a) := seen
    have early' : late a = false := early
    simp only [poll, seen', early', Bool.or_self, Bool.false_eq_true, ↓reduceIte]
    exact ih turns (Nat.le_of_succ_le_succ enough) (pause a)
      (fun i below => waits (i + 1) (Nat.succ_lt_succ below)) stops

/-- Such a wait looks for the last time at the first look that passes, or at the one that is late. -/
theorem poll_stops {passes : Nat → Prop} {last k : Nat} (stop : Stops passes last k) (turns : Nat)
    (enough : last ≤ turns) (a : α) (rests : ∀ i, (look (pause^[i] a)).2 = pause^[i] a)
    (passed : ∀ i, (look (pause^[i] a)).1 = true ↔ passes i)
    (early : ∀ i < last, late (pause^[i] a) = false) (ended : late (pause^[last] a) = true) :
    poll look late pause turns a = look (pause^[k] a) := by
  refine poll_ends look late pause k turns (Nat.le_trans stop.within enough) a
    (fun i below => ⟨Prod.ext ?_ (rests i), early i (Nat.lt_of_lt_of_le below stop.within)⟩) ?_
  · exact Bool.eq_false_iff.2 (mt (passed i).1 (stop.first i below))
  · refine stop.passes_or_last.imp (passed k).2 fun at_last => ?_
    rw [rests k, at_last, ended]

end Poll

variable {σ : Type} [Board σ]

theorem Rig.awaitOn_eq_poll (rail : RailId) (deadline : Instant) (turns : Nat) (r : Rig σ) :
    Rig.awaitOn rail deadline turns r =
      (poll (fun r : Rig σ => (decide ((r.status rail).1 = .on), (r.status rail).2))
        (fun r => decide (deadline.micros ≤ r.plant.now.micros))
        (fun r => r.sleep r.rails.timing.poll) turns r).2 := by
  induction turns generalizing r with
  | zero => rfl
  | succ turns ih =>
    simp only [awaitOn, poll, ih]
    split <;> rfl

theorem Sequencer.awaitGood_eq_poll (m : Sequencer) (rails : RailBank) (deadline : Instant)
    (turns : Nat) (p : Plant σ) :
    m.awaitGood rails deadline turns p =
      poll (m.compositeGood rails) (fun p => decide (deadline.micros ≤ p.now.micros))
        (fun p => p.sleep m.timings.poll) turns p := by
  induction turns generalizing p with
  | zero => rfl
  | succ turns ih => simp only [awaitGood, poll, ih]

/-- Among the good boards no call sets the clock back, and a sleep moves it on by its span until it
saturates. -/
structure KeepsTime (good : σ → Prop) : Prop where
  lasts : ∀ (b : σ) (call : Call), good b → good (call.run b)
  forward : ∀ (b : σ) (call : Call), good b → (Board.now b).micros ≤ (Board.now (call.run b)).micros
  sleeps : ∀ (b : σ) (span : Span), good b →
    min ((Board.now b).micros + span.micros) Instant.last ≤ (Board.now (Board.sleep span b)).micros

namespace KeepsTime

variable {good : σ → Prop} (clock : KeepsTime good)

include clock

theorem quiet {b b' : σ} (fine : good b) (h : Quiet b b') :
    good b' ∧ (Board.now b).micros ≤ (Board.now b').micros :=
  h.invariant (fun b' => good b' ∧ (Board.now b).micros ≤ (Board.now b').micros)
    (fun call b' _ held =>
      ⟨clock.lasts b' call held.1, Nat.le_trans held.2 (clock.forward b' call held.1)⟩)
    ⟨fine, Nat.le_refl _⟩

theorem looked {b b' : σ} (fine : good b) (h : Quiet b b') (deadline : Nat) :
    good b' ∧ deadline - (Board.now b').micros ≤ deadline - (Board.now b).micros := by
  obtain ⟨fine', later⟩ := clock.quiet fine h
  exact ⟨fine', Nat.sub_le_sub_left later deadline⟩

theorem closer {b : σ} (fine : good b) (span : Span) (counts : 1 ≤ span.micros) {deadline : Nat}
    (fits : deadline ≤ Instant.last) (early : ¬ deadline ≤ (Board.now b).micros) :
    good (Board.sleep span b) ∧
      deadline - (Board.now (Board.sleep span b)).micros < deadline - (Board.now b).micros := by
  have moved := clock.sleeps b span fine
  exact ⟨clock.lasts b (.sleep span) fine, by omega⟩

theorem awaitOn_settles (rail : RailId) (deadline : Instant) (fits : deadline.micros ≤ Instant.last)
    (extra turns : Nat) (r : Rig σ) (fine : good r.plant.board)
    (counts : 1 ≤ r.rails.timing.poll.micros)
    (enough : deadline.micros - r.plant.now.micros ≤ turns) :
    Rig.awaitOn rail deadline (turns + extra) r = Rig.awaitOn rail deadline turns r := by
  rw [Rig.awaitOn_eq_poll, Rig.awaitOn_eq_poll]
  congr 1
  refine poll_settles _ _ _
    (fun r : Rig σ => good r.plant.board ∧ 1 ≤ r.rails.timing.poll.micros)
    (fun r : Rig σ => deadline.micros - r.plant.now.micros)
    (fun r held => ?_) (fun r held early => ?_) (fun r held none => ?_)
    extra turns r ⟨fine, counts⟩ enough
  · obtain ⟨fine', lower⟩ :=
      clock.looked held.1 (r.rails.status_quiet rail r.plant) deadline.micros
    exact ⟨⟨fine', held.2⟩, lower⟩
  · obtain ⟨fine', lower⟩ := clock.closer held.1 _ held.2 fits (of_decide_eq_false early)
    exact ⟨⟨fine', held.2⟩, lower⟩
  · exact decide_eq_true (Nat.le_of_sub_eq_zero none)

theorem awaitGood_settles (m : Sequencer) (rails : RailBank) (deadline : Instant)
    (fits : deadline.micros ≤ Instant.last) (counts : 1 ≤ m.timings.poll.micros)
    (extra turns : Nat) (p : Plant σ) (fine : good p.board)
    (enough : deadline.micros - p.now.micros ≤ turns) :
    m.awaitGood rails deadline (turns + extra) p = m.awaitGood rails deadline turns p := by
  rw [Sequencer.awaitGood_eq_poll, Sequencer.awaitGood_eq_poll]
  refine poll_settles _ _ _ (fun p : Plant σ => good p.board)
    (fun p : Plant σ => deadline.micros - p.now.micros)
    (fun p fine => clock.looked fine (m.compositeGood_quiet rails p) deadline.micros)
    (fun p fine early => clock.closer fine _ counts fits (of_decide_eq_false early))
    (fun p _ none => decide_eq_true (Nat.le_of_sub_eq_zero none)) extra turns p fine enough

end KeepsTime

structure Clocked (σ : Type) [Board σ] : Prop where
  still : ∀ (call : Call) (b : σ), (∀ span, call ≠ .sleep span) →
    Board.now (call.run b) = Board.now b
  sleeps : ∀ span (b : σ), Board.now (Board.sleep span b) = (Board.now b).after span

theorem Clocked.keepsTime (clocked : Clocked σ) :
    KeepsTime fun b : σ => (Board.now b).micros ≤ Instant.last := by
  have time : ∀ (b : σ) (call : Call), Board.now (call.run b) = Board.now b ∨
      ∃ span, Board.now (call.run b) = (Board.now b).after span := by
    intro b call
    cases call with
    | sleep span => exact .inr ⟨span, clocked.sleeps span b⟩
    | _ => exact .inl (clocked.still _ b fun _ same => by cases same)
  refine ⟨fun b call fine => ?_, fun b call fine => ?_, fun b span _ =>
    Nat.le_of_eq (congrArg Instant.micros (clocked.sleeps span b)).symm⟩
  · rcases time b call with same | ⟨span, moved⟩
    · rwa [same]
    · rw [moved]
      exact Nat.min_le_right _ _
  · rcases time b call with same | ⟨span, moved⟩
    · rw [same]
    · rw [moved]
      exact Nat.le_min.2 ⟨Nat.le_add_right _ _, fine⟩

theorem Bench.clocked : Clocked Bench where
  still call b wakes := by
    cases call with
    | sleep span => exact absurd rfl (wakes span)
    | driveLine line level =>
      change (b.write line level).2.time = b.time
      simp only [Bench.write]
      repeat' split
      all_goals rfl
    | _ => rfl
  sleeps _ _ := rfl

theorem Bench.keepsTime : KeepsTime fun b : Bench => b.time.micros ≤ Instant.last :=
  clocked.keepsTime

end BoardWarden
