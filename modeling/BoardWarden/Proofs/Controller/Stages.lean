import BoardWarden.Controller.Run
import BoardWarden.Proofs.Answers

set_option autoImplicit false

namespace BoardWarden

namespace Span

def Fits (s t : Span) : Prop := s.nanos + t.nanos ≤ longest

instance (s t : Span) : Decidable (s.Fits t) := inferInstanceAs (Decidable (_ ≤ _))

variable {s t : Span}

theorem add_of_fits (fits : s.Fits t) : s.add t = .ok ⟨s.nanos + t.nanos⟩ := if_pos fits

theorem add_of_not_fits (long : ¬ s.Fits t) : s.add t = .error .spanOverflow := if_neg long

end Span

namespace FanBank

variable {σ : Type} [Board σ] {b b' : FanBank} {percent : Nat} {p : Plant σ}

theorem demandWithinWords_ok (h : b.demandWithinWords percent p = .ok b') :
    b.demandFits p = true ∧ b.applyDemand percent p = .ok b' := by
  simp only [demandWithinWords] at h
  split at h
  · exact ⟨‹_›, h⟩
  · cases h

end FanBank

namespace Controller

variable {σ : Type} [Board σ] {c c' d e : Controller σ} {tick : CoolingTick}

def followed (c : Controller σ) (tick : CoolingTick) (overrideDelay : Span) : Controller σ :=
  (if tick.critical.isSome then c.askDown.armShutdown overrideDelay else c).followRecovery
    tick.recovery

theorem followTick_ok (h : c.followTick tick = .ok d) : ∃ delay, d = c.followed tick delay := by
  obtain ⟨begun, started, rfl⟩ := map_ok h
  by_cases critical : tick.critical.isSome
  · rw [if_pos critical] at started
    obtain ⟨delay, _, rfl⟩ := map_ok started
    exact ⟨delay, by simp only [followed, critical, ↓reduceIte]⟩
  · rw [if_neg critical] at started
    cases started
    exact ⟨Span.zero, by simp only [followed, critical, ↓reduceIte, Bool.false_eq_true]⟩

theorem followTick_of_fits (c : Controller σ) (tick : CoolingTick)
    (fits : tick.critical.isSome → c.config.cooling.forceDelay.Fits c.config.cooling.overrideOffset) :
    ∃ delay, c.followTick tick = .ok (c.followed tick delay) := by
  by_cases critical : tick.critical.isSome
  · simp only [followTick, followed, critical, ↓reduceIte, startThermalShutdown,
      Span.add_of_fits (fits critical)]
    exact ⟨_, rfl⟩
  · simp only [followTick, followed, critical, ↓reduceIte, Bool.false_eq_true]
    exact ⟨Span.zero, rfl⟩

/-- A controller after its work on the fans, with numbers of any size. -/
def fansWorked (c : Controller σ) (time : Instant) : Controller σ :=
  let powered := c.fanPowerGood
  let checked := powered.2.fans.healthTick powered.1 time powered.2.plant
  let controlled := checked.1.controlTick powered.1 time checked.2
  { powered.2.withPlant controlled.2 with fans := controlled.1 }

def fansFit (c : Controller σ) (time : Instant) : Bool :=
  let powered := c.fanPowerGood
  let checked := powered.2.fans.healthTick powered.1 time powered.2.plant
  checked.1.controlFits powered.1 time checked.2

theorem tickFans_eq (c : Controller σ) (time : Instant) :
    c.tickFans time = if c.fansFit time then .ok (c.fansWorked time) else .error .wordOverflow := by
  cases fits : c.fansFit time with
  | true =>
    have fits' : FanBank.controlFits _ _ _ _ = true := fits
    simp only [tickFans, FanBank.controlWithinWords, fits', ↓reduceIte]
    rfl
  | false =>
    have fits' : FanBank.controlFits _ _ _ _ = false := fits
    simp only [tickFans, FanBank.controlWithinWords, fits', Bool.false_eq_true, ↓reduceIte]
    rfl

theorem applyDemand_ok {demand : Option Nat} (asked : c.applyDemand demand = .ok d) :
    ∃ fans, d = { c with fans } := by
  cases demand with
  | none =>
    cases asked
    exact ⟨c.fans, rfl⟩
  | some percent =>
    obtain ⟨fans, _, rfl⟩ := map_ok asked
    exact ⟨fans, rfl⟩

section Second

variable {cooling : Cooling} {p : Plant σ}
  (cooled : c.cooling.tick c.coolingInputs c.now c.plant = .ok (tick, cooling, p))

include cooled

theorem tickSecond_of_stages
    (asked : ({ c.withPlant p with cooling } : Controller σ).applyDemand tick.demand = .ok d)
    (followed : d.followTick tick = .ok e) :
    c.tickSecond = (e.tickFans c.now).map fun c' => (tick, c') := by
  simp only [tickSecond, tickCooling, cooled, asked, followed, bind, Except.bind, pure, Except.pure]
  cases e.tickFans c.now <;> rfl

end Second

theorem tickSecond_done (h : c.tickSecond = .ok (tick, c')) :
    ∃ cooling p fans d,
      c.cooling.tick c.coolingInputs c.now c.plant = .ok (tick, cooling, p) ∧
      ({ c.withPlant p with cooling } : Controller σ).applyDemand tick.demand =
        .ok { c.withPlant p with cooling, fans } ∧
      ({ c.withPlant p with cooling, fans } : Controller σ).followTick tick = .ok d ∧
      d.fansFit c.now = true ∧ c' = d.fansWorked c.now := by
  obtain ⟨⟨tick', cooledDown⟩, cooled, h⟩ := bind_ok h
  obtain ⟨fanned, worked, h⟩ := bind_ok h
  cases h
  obtain ⟨⟨tick, cooling, p⟩, read, cooled⟩ := bind_ok cooled
  obtain ⟨d, asked, cooled⟩ := bind_ok cooled
  obtain ⟨e, followed, cooled⟩ := bind_ok cooled
  cases cooled
  obtain ⟨fans, rfl⟩ := applyDemand_ok asked
  rw [tickFans_eq] at worked
  split at worked
  · rename_i fits
    cases worked
    exact ⟨cooling, p, fans, _, read, asked, followed, fits, rfl⟩
  · cases worked

theorem tickSecond_stages (h : c.tickSecond = .ok (tick, c')) :
    ∃ cooling p fans delay,
      c.cooling.tick c.coolingInputs c.now c.plant = .ok (tick, cooling, p) ∧
      ({ c.withPlant p with cooling } : Controller σ).applyDemand tick.demand =
        .ok { c.withPlant p with cooling, fans } ∧
      c' = (({ c.withPlant p with cooling, fans } : Controller σ).followed tick delay).fansWorked
        c.now := by
  obtain ⟨cooling, p, fans, d, read, asked, followed, _, rfl⟩ := tickSecond_done h
  obtain ⟨delay, rfl⟩ := followTick_ok followed
  exact ⟨cooling, p, fans, delay, read, asked, rfl⟩

end Controller

end BoardWarden
