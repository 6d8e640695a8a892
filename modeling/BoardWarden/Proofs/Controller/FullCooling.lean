import BoardWarden.Proofs.Controller.Fans
import BoardWarden.Proofs.Controller.Order
import BoardWarden.Proofs.Cooling.Alarm

set_option autoImplicit false

namespace BoardWarden

open Settings (FanLimits)

namespace FanChannel

def FullSpeed (c : FanChannel) : Prop := c.target = c.limits.max

structure Obeys (c : FanChannel) : Prop where
  follows : c.followsDemand = true
  valid : c.limits.valid = true

theorem rpmOfPercent_full (l : FanLimits) (fits : l.max ≤ FanLimits.ceiling) :
    rpmOfPercent l 100 = l.max := by
  have fits' : l.max ≤ 65535 := fits
  have most : (99 * l.max + 0 * l.min) / 99 = l.max := by omega
  change min ((99 * l.max + 0 * l.min) / 99) 4294967295 = l.max
  omega

theorem rpmForDemand_full (l : FanLimits) (actual : Nat) (valid : l.valid = true) :
    rpmForDemand l actual 100 = l.max := by
  obtain ⟨_, start, fits⟩ := FanLimits.bounds valid
  simp only [rpmForDemand, rpmOfPercent_full l fits]
  split
  · rename_i kick
    simp only [Bool.and_eq_true, decide_eq_true_eq] at kick
    omega
  · rfl

theorem follow_full (c : FanChannel) (actual : Nat) (obeys : c.Obeys) :
    c.follow actual 100 = .ok { c with target := c.limits.max } := by
  have bounds := FanLimits.bounds obeys.valid
  have turns : c.limits.max ≠ 0 := by omega
  have order : c.limits.min ≤ c.limits.max := by omega
  have clamped : min (max c.limits.max c.limits.min) c.limits.max = c.limits.max := by omega
  rw [follow, if_pos obeys.follows, rpmForDemand_full c.limits actual obeys.valid, setTarget,
    if_neg turns, if_pos order, clamped]

theorem check_aim {σ : Type} [Board σ] (fan : FanId) (powered : Bool) (time : Instant)
    (c : FanChannel) (p : Plant σ) (full : c.FullSpeed) :
    (FanBank.checkChannel fan powered time c p).1.FullSpeed := by
  simp only [FanBank.checkChannel]
  repeat' split
  all_goals exact full

theorem control_aim {σ : Type} [Board σ] (config : FanConfig) (fan : FanId) (time : Instant)
    (c : FanChannel) (p : Plant σ) (full : c.FullSpeed) :
    (FanBank.controlChannel config fan time c p).1.FullSpeed := by
  simp only [FanBank.controlChannel]
  repeat' split
  all_goals exact full

end FanChannel

namespace FanBank

variable {σ : Type} [Board σ]

theorem demandOf_full (p : Plant σ) (fans : List FanId) (b : FanBank)
    (obey : b.All FanChannel.Obeys) :
    ∃ b', demandOf 100 p fans b = .ok b' ∧ ∀ other, b'.channel? other =
      if other ∈ fans then (b.channel? other).map fun c => { c with target := c.limits.max }
      else b.channel? other := by
  induction fans generalizing b with
  | nil => exact ⟨b, rfl, fun _ => rfl⟩
  | cons fan rest ih =>
    cases hc : b.channel? fan with
    | none =>
      obtain ⟨b', asked, aimed⟩ := ih b obey
      refine ⟨b', by simpa only [demandOf, demand, hc] using asked, fun other => ?_⟩
      rw [aimed other]
      by_cases same : other = fan
      · simp [same, hc]
      · simp [same]
    | some c =>
      have obeys := (all_iff _ b).1 obey fan c hc
      let aim : FanChannel := { c with target := c.limits.max }
      obtain ⟨b', asked, aimed⟩ := ih (b.setChannel fan aim)
        (obey.setChannel fan c aim hc fun h => ⟨h.follows, h.valid⟩)
      refine ⟨b', ?_, fun other => ?_⟩
      · simpa only [demandOf, demand, hc, c.follow_full _ obeys, Except.map] using asked
      · rw [aimed other, channel?_setChannel]
        by_cases same : fan = other
        · subst same
          simp [hc, aim]
        · simp [same, Ne.symm same]

theorem applyDemand_full (b : FanBank) (p : Plant σ) (obey : b.All FanChannel.Obeys) :
    ∃ b', b.applyDemand 100 p = .ok b' ∧ b'.All FanChannel.FullSpeed := by
  obtain ⟨b', asked, aimed⟩ := demandOf_full p b.fans b obey
  refine ⟨b', asked, (all_iff _ b').2 fun fan c hc => ?_⟩
  rw [aimed fan] at hc
  split at hc
  · obtain ⟨old, _, rfl⟩ := Option.map_eq_some_iff.1 hc
    rfl
  · rename_i out
    exact absurd (b.mem_fans fan c hc) out

end FanBank

namespace Controller

variable {σ : Type} [Board σ]

omit [Board σ] in
theorem releaseFans_fullSpeed (fans : List FanId) (b : FanBank) (full : b.All FanChannel.FullSpeed) :
    (releaseFans fans b).All FanChannel.FullSpeed := by
  induction fans generalizing b with
  | nil => exact full
  | cons fan rest ih => exact ih _ (full.modify fan _ fun _ h => h)

theorem followed_fullSpeed (c : Controller σ) (tick : CoolingTick) (delay : Span)
    (full : c.fans.All FanChannel.FullSpeed) :
    (c.followed tick delay).fans.All FanChannel.FullSpeed := by
  simp only [followed, followRecovery, recover]
  repeat' split
  all_goals first
    | exact full
    | exact releaseFans_fullSpeed _ _ full

theorem fansWorked_fullSpeed (c : Controller σ) (time : Instant)
    (full : c.fans.All FanChannel.FullSpeed) :
    (c.fansWorked time).fans.All FanChannel.FullSpeed := by
  have same : c.fanPowerGood.2.fans = c.fans := c.fanPowerGood_fields.2.2.2.2
  have checked := FanBank.All.stepChannels _
    (fun fan channel p => FanChannel.check_aim fan c.fanPowerGood.1 time channel p) 0
    c.fans.channels c.fanPowerGood.2.plant full
  simp only [fansWorked, same, FanBank.controlTick]
  split
  · exact FanBank.All.stepChannels _
      (fun fan channel p => FanChannel.control_aim _ fan time channel p) 0 _ _ checked
  · exact checked

def readings (c : Controller σ) : List (Zone × Option Int) :=
  (Cooling.readZones c.now c.cooling.zones c.plant).1

def readPlant (c : Controller σ) : Plant σ := (Cooling.readZones c.now c.cooling.zones c.plant).2

/-- Why a tick halts that has a full demand to hand to the fans. -/
inductive Impeded (c : Controller σ) : Halt → Prop where
  /-- The bounds of the integral are out of order for a calm zone. -/
  | integral (stuck : c.cooling.Stuck c.coolingInputs c.readings) : Impeded c .integralBounds
  /-- A fan that is to follow the demand measures more than its word holds. -/
  | speed (free : ¬ c.cooling.Stuck c.coolingInputs c.readings)
      (fast : c.fans.demandFits c.readPlant = false) : Impeded c .wordOverflow
  /-- A thermal shutdown begins, and its delays have no sum. -/
  | delays (free : ¬ c.cooling.Stuck c.coolingInputs c.readings)
      (fits : c.fans.demandFits c.readPlant = true)
      (begins : c.cooling.Begins c.coolingInputs c.readings)
      (long : ¬ c.config.cooling.forceDelay.Fits c.config.cooling.overrideOffset) :
      Impeded c .spanOverflow
  /-- The demand is handed over, and then a speed or an averaged error leaves its word where the fans
  are controlled. -/
  | fans {tick : CoolingTick} {cooled : Controller σ} (handed : c.tickCooling = .ok (tick, cooled))
      (wide : cooled.fansFit c.now = false) : Impeded c .wordOverflow

section Alarmed

variable {c : Controller σ} (follow : c.fans.allFollow = true)

theorem tickSecond_of_cooled {tick : CoolingTick} {cooled : Controller σ}
    (handed : c.tickCooling = .ok (tick, cooled)) :
    c.tickSecond = (cooled.tickFans c.now).map fun worked => (tick, worked) := by
  simp only [tickSecond, handed, bind, Except.bind, pure, Except.pure]
  cases cooled.tickFans c.now <;> rfl

theorem tickSecond_of_halt {halt : Halt} (halted : c.tickCooling = .error halt) :
    c.tickSecond = .error halt := by
  simp only [tickSecond, halted, bind, Except.bind]

include follow in
theorem tickCooling_stuck (stuck : c.cooling.Stuck c.coolingInputs c.readings) :
    c.tickCooling = .error .integralBounds := by
  simp only [tickCooling, c.cooling.tick_stuck c.coolingInputs c.now c.plant follow stuck, bind,
    Except.bind]

variable (alarm : Cooling.Alarm c.readings)
  (free : ¬ c.cooling.Stuck c.coolingInputs c.readings)

include follow alarm free

theorem tick_read : ∃ tick cooling p,
    c.cooling.tick c.coolingInputs c.now c.plant = .ok (tick, cooling, p) ∧
      tick.demand = some 100 ∧ c.fans.demandFits p = c.fans.demandFits c.readPlant ∧
      (tick.critical.isSome ↔ c.cooling.Begins c.coolingInputs c.readings) := by
  obtain ⟨tick, cooling, p, ticked, demand⟩ :=
    c.cooling.tick_alarm c.coolingInputs c.now c.plant follow alarm free
  have board := Cooling.tick_board _ _ _ _ _ _ _ ticked
  refine ⟨tick, cooling, p, ticked, demand, ?_, Cooling.tick_begins_iff _ _ _ _ _ _ _ ticked⟩
  have tach : p.tach = c.readPlant.tach := funext fun fan => congrArg (Board.tach fan) board
  have measured : c.fans.measureFits (·.followsDemand) p =
      c.fans.measureFits (·.followsDemand) c.readPlant := funext fun fan => by
    simp only [FanBank.measureFits, tach]
  simp only [FanBank.demandFits, measured]

theorem tickCooling_fast (fast : c.fans.demandFits c.readPlant = false) :
    c.tickCooling = .error .wordOverflow := by
  obtain ⟨tick, cooling, p, ticked, demand, same, _⟩ := tick_read follow alarm free
  have halted : c.fans.demandWithinWords 100 p = .error .wordOverflow :=
    if_neg (by rw [same, fast]; decide)
  have asked : ({ c.withPlant p with cooling } : Controller σ).applyDemand tick.demand =
      .error .wordOverflow := by
    rw [demand]
    exact congrArg (Except.map _) halted
  simp only [tickCooling, ticked, asked, bind, Except.bind]

variable (fits : c.fans.demandFits c.readPlant = true)
  (valid : ∀ l ∈ c.fans.limits, l.valid = true)

include fits valid

/-- Behind the readings every fan is aimed at its fastest speed, and what is left is to follow the
tick. -/
theorem tickCooling_aimed : ∃ (tick : CoolingTick) (aimed : Controller σ),
    c.tickCooling = (aimed.followTick tick).map (fun followed => (tick, followed)) ∧
      tick.demand = some 100 ∧
      (tick.critical.isSome ↔ c.cooling.Begins c.coolingInputs c.readings) ∧
      aimed.config = c.config ∧ aimed.fans.limits = c.fans.limits ∧
      aimed.fans.All FanChannel.FullSpeed := by
  obtain ⟨tick, cooling, p, ticked, demand, same, begins⟩ := tick_read follow alarm free
  have obey : c.fans.All FanChannel.Obeys := fun channel held =>
    ⟨List.all_eq_true.1 follow channel held, valid _ (List.mem_map_of_mem held)⟩
  have order : c.fans.InOrder := fun l held => Nat.le_of_lt (FanLimits.bounds (valid l held)).1
  obtain ⟨fans, asked, full⟩ := c.fans.applyDemand_full p obey
  obtain ⟨fans', asked', limits⟩ := c.fans.applyDemand_ok 100 p order
  rw [asked] at asked'
  cases asked'
  let aimed : Controller σ := { c.withPlant p with cooling, fans }
  have handed : c.fans.demandWithinWords 100 p = .ok fans := (if_pos (same.trans fits)).trans asked
  have applied : ({ c.withPlant p with cooling } : Controller σ).applyDemand tick.demand =
      .ok aimed := by
    rw [demand]
    exact congrArg (Except.map _) handed
  refine ⟨tick, aimed, ?_, demand, begins, rfl, limits, full⟩
  simp only [tickCooling, ticked, applied, bind, Except.bind, pure, Except.pure]
  cases aimed.followTick tick <;> rfl

theorem tickCooling_long (begins : c.cooling.Begins c.coolingInputs c.readings)
    (long : ¬ c.config.cooling.forceDelay.Fits c.config.cooling.overrideOffset) :
    c.tickCooling = .error .spanOverflow := by
  obtain ⟨tick, aimed, cooled, _, critical, config, _⟩ :=
    tickCooling_aimed follow alarm free fits valid
  have halted : aimed.startThermalShutdown = .error .spanOverflow := by
    rw [startThermalShutdown, config, Span.add_of_not_fits long]
    rfl
  rw [cooled, followTick, if_pos (critical.2 begins), halted]
  rfl

theorem tickCooling_full (short : c.cooling.Begins c.coolingInputs c.readings →
      c.config.cooling.forceDelay.Fits c.config.cooling.overrideOffset) :
    ∃ tick cooled, c.tickCooling = .ok (tick, cooled) ∧ tick.demand = some 100 ∧
      cooled.fans.limits = c.fans.limits ∧ cooled.fans.All FanChannel.FullSpeed := by
  obtain ⟨tick, aimed, cooled, demand, critical, config, limits, full⟩ :=
    tickCooling_aimed follow alarm free fits valid
  obtain ⟨delay, followed⟩ := aimed.followTick_of_fits tick fun begins => by
    rw [config]
    exact short (critical.1 begins)
  refine ⟨tick, aimed.followed tick delay, ?_, demand, ?_, followed_fullSpeed _ _ _ full⟩
  · rw [cooled, followed]
    rfl
  · rw [followed_limits, limits]

end Alarmed

section Outcome

variable {c : Controller σ} (follow : c.fans.allFollow = true)
  (valid : ∀ l ∈ c.fans.limits, l.valid = true) (alarm : Cooling.Alarm c.readings)

include follow valid alarm

theorem Impeded.halts {halt : Halt} (impeded : c.Impeded halt) : c.tickSecond = .error halt := by
  cases impeded with
  | integral stuck => exact tickSecond_of_halt (tickCooling_stuck follow stuck)
  | speed free fast => exact tickSecond_of_halt (tickCooling_fast follow alarm free fast)
  | delays free fits begins long =>
    exact tickSecond_of_halt (tickCooling_long follow alarm free fits valid begins long)
  | fans handed wide =>
    rw [tickSecond_of_cooled handed, tickFans_eq, wide]
    rfl

/-- A tick halts for the first reason that it meets, and otherwise gives every fan its fastest
speed. -/
theorem tickSecond_outcome : (∃ halt, c.tickSecond = .error halt ∧ c.Impeded halt) ∨
    ∃ tick c', c.tickSecond = .ok (tick, c') ∧ tick.demand = some 100 ∧
      c'.fans.limits = c.fans.limits ∧ c'.fans.All FanChannel.FullSpeed := by
  by_cases stuck : c.cooling.Stuck c.coolingInputs c.readings
  · exact .inl ⟨_, tickSecond_of_halt (tickCooling_stuck follow stuck), .integral stuck⟩
  cases fits : c.fans.demandFits c.readPlant with
  | false =>
    exact .inl ⟨_, tickSecond_of_halt (tickCooling_fast follow alarm stuck fits), .speed stuck fits⟩
  | true =>
    by_cases long : c.cooling.Begins c.coolingInputs c.readings ∧
        ¬ c.config.cooling.forceDelay.Fits c.config.cooling.overrideOffset
    · have halted := tickCooling_long follow alarm stuck fits valid long.1 long.2
      exact .inl ⟨_, tickSecond_of_halt halted, .delays stuck fits long.1 long.2⟩
    · obtain ⟨tick, cooled, handed, demand, limits, full⟩ :=
        tickCooling_full follow alarm stuck fits valid fun begins =>
          Decidable.not_not.1 fun l => long ⟨begins, l⟩
      have second := tickSecond_of_cooled handed
      rw [tickFans_eq] at second
      cases wide : cooled.fansFit c.now with
      | false =>
        rw [wide] at second
        exact .inl ⟨_, second, .fans handed wide⟩
      | true =>
        rw [wide] at second
        exact .inr ⟨tick, cooled.fansWorked c.now, second, demand,
          (fansWorked_limits _ _).trans limits, fansWorked_fullSpeed _ _ full⟩

end Outcome

/-- A failed reading of a cooling zone, one at the warning threshold, or one at the hysteresis
threshold while the warning latch is set, gives the tick a full demand and every fan its fastest
speed, unless it is impeded. Nothing else stops such a tick, and nothing stops that of an ordered
controller. -/
theorem alarm_reaches_fans (c : Controller σ) (follow : c.fans.allFollow = true)
    (valid : ∀ l ∈ c.fans.limits, l.valid = true) (alarm : Cooling.Alarm c.readings) :
    (∀ halt, c.tickSecond = .error halt ↔ c.Impeded halt) ∧
    ((∀ halt, ¬ c.Impeded halt) →
      ∃ tick c', c.tickSecond = .ok (tick, c') ∧ tick.demand = some 100 ∧
        c'.fans.limits = c.fans.limits ∧ ∀ fan ∈ c'.fans.channels, fan.target = fan.limits.max) ∧
    (c.Ordered → ∀ halt, ¬ c.Impeded halt) := by
  refine ⟨fun halt => ⟨fun halted => ?_, fun impeded => impeded.halts follow valid alarm⟩,
    fun clear => ?_, fun ordered halt impeded => ?_⟩
  · rcases tickSecond_outcome follow valid alarm with ⟨halt', halted', impeded⟩ | ⟨_, _, ticked, _⟩
    · rw [halted] at halted'
      cases halted'
      exact impeded
    · rw [halted] at ticked
      cases ticked
  · rcases tickSecond_outcome follow valid alarm with ⟨halt, _, impeded⟩ | full
    · exact absurd impeded (clear halt)
    · exact full
  · obtain ⟨tick, c', ticked, _⟩ := ordered.tickSecond
    rw [impeded.halts follow valid alarm] at ticked
    cases ticked

instance (z : Zone) (reading : Option Int) : Decidable (z.Alarmed reading) :=
  inferInstanceAs (Decidable (_ ∨ ∃ celsius, reading = some celsius ∧ (_ ∨ _)))

instance (readings : List (Zone × Option Int)) : Decidable (Cooling.Alarm readings) :=
  inferInstanceAs (Decidable (∃ reading ∈ readings, _ ∧ _))

instance (readings : List (Zone × Option Int)) : Decidable (Cooling.Calm readings) :=
  inferInstanceAs (Decidable (∃ reading ∈ readings, _ ∧ _))

def muted (b : Bench) : Bench := b.change { temperatures := [(⟨0⟩, .error .bus)] }

def mutedStart : List (Input Bench) :=
  [.init Settings.Store.empty ⟨false, false, false, false⟩, .powerOn] ++ List.replicate 6 .step ++
    [.outside muted]

theorem carrier_cools_muted :
    ∃ c, along (fun _ _ => true) mutedStart carrier = some c ∧
      ∃ tick c', c.tickSecond = .ok (tick, c') ∧ tick.demand = some 100 ∧
        ∀ fan ∈ c'.fans.channels, fan.target = fan.limits.max := by
  obtain ⟨c, started, follow, valid, alarm⟩ :
      ∃ c, along (fun _ _ => true) mutedStart carrier = some c ∧ c.fans.allFollow = true ∧
        (∀ l ∈ c.fans.limits, l.valid = true) ∧ Cooling.Alarm c.readings := by
    decide +kernel
  have ordered := (along_reaches mutedStart carrier c started).ordered
    (fresh_ordered _ _ _ ControllerConfig.builtIn_ordered)
  obtain ⟨_, reaches, clear⟩ := alarm_reaches_fans c follow valid alarm
  obtain ⟨tick, c', ticked, demand, _, full⟩ := reaches (clear ordered)
  exact ⟨c, started, tick, c', ticked, demand, full⟩

def crossedBounds : ControllerConfig :=
  { ControllerConfig.builtIn with
    cooling := { CoolingConfig.builtIn with pid := { PidLimits.builtIn with maxIntegral := -1.0 } } }

/-- With crossed bounds the tick halts at the zone of the board, and the alarm of the AP's zone
never reaches the fans. -/
theorem carrier_halts_in_alarm :
    ∃ c, Reaches (fresh Carrier.layout Carrier.fanCount crossedBounds Carrier.bench) c ∧
      c.fans.allFollow = true ∧ (∀ l ∈ c.fans.limits, l.valid = true) ∧
      Cooling.Alarm c.readings ∧ c.tickSecond = .error .integralBounds := by
  obtain ⟨c, started, follow, valid, alarm, disorder, calm, silent⟩ :
      ∃ c, along (fun _ _ => true) mutedStart
          (fresh Carrier.layout Carrier.fanCount crossedBounds Carrier.bench) = some c ∧
        c.fans.allFollow = true ∧ (∀ l ∈ c.fans.limits, l.valid = true) ∧
        Cooling.Alarm c.readings ∧ ¬ c.cooling.config.pid.InOrder ∧ Cooling.Calm c.readings ∧
        ∀ reading ∈ c.readings, Cooling.isCritical reading = false := by
    decide +kernel
  exact ⟨c, along_reaches _ _ c started, follow, valid, alarm,
    tickSecond_of_halt (tickCooling_stuck follow ⟨disorder, calm, .inr (.inr silent)⟩)⟩

end Controller

end BoardWarden
