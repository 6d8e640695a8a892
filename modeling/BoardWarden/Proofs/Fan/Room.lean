import BoardWarden.Proofs.Fan.Steering

set_option autoImplicit false

namespace BoardWarden

open Settings (FanLimits Store)

namespace FanConfig

/-- A timing and a band that leave room in the words of a fan for whatever is worked out of it. -/
structure Roomy (c : FanConfig) : Prop where
  prescaler : c.tachPrescaler ≤ 65535
  speed : c.speedFits 1 = true
  average : 99 * c.band + max FanLimits.ceiling (c.rpmOfPeriod 1) ≤ maxSigned

instance : DecidablePred Roomy := fun c =>
  decidable_of_iff (c.tachPrescaler ≤ 65535 ∧ c.speedFits 1 = true ∧
      99 * c.band + max FanLimits.ceiling (c.rpmOfPeriod 1) ≤ maxSigned)
    ⟨fun h => ⟨h.1, h.2.1, h.2.2⟩, fun h => ⟨h.prescaler, h.speed, h.average⟩⟩

variable {c : FanConfig}

theorem captures_le (c : FanConfig) (period : Nat) :
    c.countsPerSecond / period ≤ c.countsPerSecond / 1 := by
  rw [Nat.div_one]
  exact Nat.div_le_self _ _

theorem rpmOfPeriod_le (c : FanConfig) (period : Nat) : c.rpmOfPeriod period ≤ c.rpmOfPeriod 1 :=
  Nat.mul_le_mul_right _ (Nat.mul_le_mul_right _ (c.captures_le period))

theorem speedFits_iff {period : Nat} : c.speedFits period = true ↔
    c.countsPerSecond / period * (60 / max c.pulsesPerRev 1) ≤ maxUnsigned ∧
      c.rpmOfPeriod period ≤ maxUnsigned := by
  simp only [speedFits, Bool.and_eq_true, decide_eq_true_eq]
  rfl

theorem Roomy.speedFits (roomy : c.Roomy) (period : Nat) : c.speedFits period = true := by
  obtain ⟨perMinute, fastest⟩ := speedFits_iff.1 roomy.speed
  have slower := Nat.mul_le_mul_right (60 / max c.pulsesPerRev 1) (c.captures_le period)
  exact speedFits_iff.2 ⟨Nat.le_trans slower perMinute, Nat.le_trans (c.rpmOfPeriod_le period) fastest⟩

theorem Roomy.rpmOfPeriod_fits (roomy : c.Roomy) (period : Nat) : c.rpmOfPeriod period ≤ maxSigned := by
  have fastest := c.rpmOfPeriod_le period
  have average := roomy.average
  omega

end FanConfig

namespace FanChannel

/-- A locked channel has its latest error within the band, so the average over past errors stays small
as well. -/
structure InRange (c : FanChannel) (band : Nat) : Prop where
  limits : c.limits.valid = true
  target : c.target ≤ FanLimits.ceiling
  locked : c.status = .locked → c.lastError.natAbs ≤ band

variable {c : FanChannel} {config : FanConfig} {band : Nat}

theorem fresh_inRange {limits : FanLimits} (valid : limits.valid = true) (band : Nat) :
    (fresh limits).InRange band :=
  ⟨valid, Nat.zero_le _, fun locked => by cases locked⟩

theorem measured_le (c : FanChannel) (config : FanConfig) (period : Nat) :
    c.measured config period ≤ config.rpmOfPeriod 1 := by
  simp only [measured]
  split
  · exact Nat.zero_le _
  · exact config.rpmOfPeriod_le period

theorem measureFits_of_roomy (roomy : config.Roomy) (c : FanChannel) (period : Nat) :
    c.measureFits config period = true := by
  simp only [measureFits, roomy.speedFits, Bool.or_true]

theorem InRange.setTarget (h : c.InRange band) (rpm : Nat) :
    ∃ c', c.setTarget rpm = .ok c' ∧ c'.InRange band := by
  obtain ⟨order, _, ceiling⟩ := FanLimits.bounds h.limits
  simp only [FanChannel.setTarget, Nat.le_of_lt order, ↓reduceIte]
  split
  · exact ⟨_, rfl, h.limits, Nat.zero_le _, h.locked⟩
  · exact ⟨_, rfl, h.limits, Nat.le_trans (Nat.min_le_right _ _) ceiling, h.locked⟩

theorem InRange.follow (h : c.InRange band) (actual percent : Nat) :
    ∃ c', c.follow actual percent = .ok c' ∧ c'.InRange band := by
  simp only [FanChannel.follow]
  split
  · exact h.setTarget _
  · exact ⟨c, rfl, h⟩

theorem InRange.liveTarget_le (h : c.InRange band) : c.liveTarget ≤ FanLimits.ceiling := by
  simp only [liveTarget]
  split
  · exact h.target
  · exact Nat.zero_le _

/-- The band bounds the past, and the fastest speed the present: a hundred such errors fit. -/
theorem InRange.errorFits (h : c.InRange config.band) (roomy : config.Roomy) (period : Nat) :
    c.errorFits (c.measured config period) = true := by
  have average := roomy.average
  have target := h.liveTarget_le
  have speed := c.measured_le config period
  simp only [FanChannel.errorFits, Bool.or_eq_true, bne_iff_ne, decide_eq_true_eq]
  by_cases locked : c.status = .locked
  · have past := h.locked locked
    have present : (c.gap (c.measured config period)).natAbs ≤
        max FanLimits.ceiling (config.rpmOfPeriod 1) := by
      simp only [gap]
      omega
    refine .inr ⟨?_, ?_⟩ <;> (simp only [FitsSigned]; omega)
  · exact .inl locked

theorem InRange.steered (h : c.InRange config.band) (actual : Nat) :
    (c.steered config.band actual).InRange config.band := by
  simp only [FanChannel.steered]
  split
  · exact h
  · have kept := @adjusted_eq c config.band (c.speedError actual)
    refine ⟨?_, ?_, fun locked => ?_⟩
    · rw [kept]
      exact h.limits
    · rw [kept]
      exact h.target
    · have within := adjusted_locked_iff.1 locked
      rw [kept]
      exact Nat.le_trans within (Nat.min_le_left _ _)

end FanChannel

namespace FanBank

variable {σ : Type}

structure InRange (b : FanBank) : Prop where
  roomy : b.config.Roomy
  channels : b.All (·.InRange b.config.band)

variable {b : FanBank}

theorem InRange.channel (h : b.InRange) {fan : FanId} {c : FanChannel}
    (hc : b.channel? fan = some c) : c.InRange b.config.band := (all_iff _ b).1 h.channels fan c hc

theorem ofCount_inRange (count : Nat) {limits : FanLimits} (valid : limits.valid = true)
    {config : FanConfig} (roomy : config.Roomy) : (ofCount count limits config).InRange := by
  refine ⟨roomy, fun c hc => ?_⟩
  obtain rfl : c = FanChannel.fresh limits := (List.mem_replicate.1 hc).2
  exact FanChannel.fresh_inRange valid _

theorem InRange.setChannel (h : b.InRange) (fan : FanId) {c c' : FanChannel}
    (hc : b.channel? fan = some c) (kept : c.InRange b.config.band → c'.InRange b.config.band) :
    (b.setChannel fan c').InRange :=
  ⟨h.roomy, h.channels.setChannel fan c c' hc kept⟩

theorem InRange.modify (h : b.InRange) (fan : FanId) {f : FanChannel → FanChannel}
    (kept : ∀ c, c.InRange b.config.band → (f c).InRange b.config.band) : (b.modify fan f).InRange :=
  ⟨h.roomy, h.channels.modify fan f kept⟩

theorem InRange.setMode (h : b.InRange) (fan : FanId) (mode : FanMode) : (b.setMode fan mode).InRange :=
  h.modify fan fun _ hc => ⟨hc.limits, hc.target, hc.locked⟩

theorem InRange.setFollowsDemand (h : b.InRange) (fan : FanId) (follows : Bool) :
    (b.setFollowsDemand fan follows).InRange :=
  h.modify fan fun _ hc => ⟨hc.limits, hc.target, hc.locked⟩

theorem InRange.setTarget (h : b.InRange) (fan : FanId) (rpm : Nat) :
    ∃ b', b.setTarget fan rpm = .ok b' ∧ b'.InRange := by
  simp only [FanBank.setTarget]
  split
  · exact ⟨b, rfl, h⟩
  · rename_i c hc
    obtain ⟨c', aimed, inside⟩ := (h.channel hc).setTarget rpm
    rw [aimed]
    exact ⟨_, rfl, h.setChannel fan hc fun _ => inside⟩

theorem InRange.loadLimits (h : b.InRange) (store : Store) (time : Instant) (j : Journal) :
    (b.loadLimits store time j).1.InRange :=
  ⟨h.roomy, loadChannels_all (fun _ _ valid hc => ⟨valid, hc.target, hc.locked⟩) store time 0
    b.channels j h.channels⟩

theorem stepsFit_of_all {P : FanChannel → Prop} {fits : FanId → FanChannel → Plant σ → Bool}
    (step : FanId → FanChannel → Plant σ → FanChannel × Plant σ)
    (fine : ∀ fan c p, P c → fits fan c p = true) (first : Nat) (channels : List FanChannel)
    (p : Plant σ) (h : ∀ c ∈ channels, P c) : stepsFit fits step first channels p = true := by
  induction channels generalizing first p with
  | nil => rfl
  | cons c rest ih =>
    obtain ⟨hc, hrest⟩ := List.forall_mem_cons.1 h
    simp only [stepsFit, fine _ c p hc, ih _ _ hrest, Bool.and_self]

variable [Board σ]

theorem InRange.setEnabled (h : b.InRange) (fan : FanId) (on : Bool) (p : Plant σ) :
    (b.setEnabled fan on p).1.InRange := by
  simp only [FanBank.setEnabled]
  split
  · exact h
  · rename_i c hc
    cases on with
    | true => exact h.setChannel fan hc fun hc => ⟨hc.limits, hc.target, fun locked => by cases locked⟩
    | false => exact h.setChannel fan hc fun hc => ⟨hc.limits, hc.target, hc.locked⟩

theorem InRange.setDuty (h : b.InRange) (fan : FanId) (percent : Nat) (p : Plant σ) :
    (b.setDuty fan percent p).1.InRange := by
  simp only [FanBank.setDuty]
  split
  · exact h
  · rename_i c hc
    exact h.setChannel fan hc fun hc => ⟨hc.limits, hc.target, hc.locked⟩

theorem InRange.measured_le (h : b.InRange) (fan : FanId) (p : Plant σ) :
    b.measured fan p ≤ maxSigned := by
  simp only [measured]
  split
  · exact Nat.zero_le _
  · simp only [FanChannel.measured]
    split
    · exact Nat.zero_le _
    · exact h.roomy.rpmOfPeriod_fits _

theorem measureFits_of_roomy (roomy : b.config.Roomy) (counts : FanChannel → Bool) (p : Plant σ)
    (fan : FanId) : b.measureFits counts p fan = true := by
  simp only [measureFits]
  split
  · rfl
  · rw [FanChannel.measureFits_of_roomy roomy, Bool.or_true]

theorem snapshots_of_roomy (roomy : b.config.Roomy) (p : Plant σ) :
    b.snapshots p = .ok (b.fans.filterMap (b.snapshot · p)) :=
  if_pos (List.all_eq_true.2 fun fan _ => measureFits_of_roomy roomy _ p fan)

theorem InRange.demand (h : b.InRange) (fan : FanId) (percent : Nat) (p : Plant σ) :
    ∃ b', b.demand fan percent p = .ok b' ∧ b'.InRange := by
  cases hc : b.channel? fan with
  | none =>
    simp only [FanBank.demand, hc]
    exact ⟨b, rfl, h⟩
  | some c =>
    obtain ⟨c', followed, inside⟩ := (h.channel hc).follow (b.measured fan p) percent
    simp only [FanBank.demand, hc, followed]
    exact ⟨_, rfl, h.setChannel fan hc fun _ => inside⟩

theorem InRange.demandOf (h : b.InRange) (percent : Nat) (p : Plant σ) (fans : List FanId) :
    ∃ b', FanBank.demandOf percent p fans b = .ok b' ∧ b'.InRange := by
  induction fans generalizing b with
  | nil => exact ⟨b, rfl, h⟩
  | cons fan rest ih =>
    obtain ⟨b', asked, inside⟩ := h.demand fan percent p
    simp only [FanBank.demandOf, asked]
    exact ih inside

theorem InRange.demandWithinWords (h : b.InRange) (percent : Nat) (p : Plant σ) :
    ∃ b', b.demandWithinWords percent p = .ok b' ∧ b'.InRange := by
  have fits : b.demandFits p = true :=
    List.all_eq_true.2 fun fan _ => measureFits_of_roomy h.roomy _ p fan
  simp only [FanBank.demandWithinWords, fits, ↓reduceIte]
  exact h.demandOf percent p b.fans

theorem InRange.healthTick (h : b.InRange) (powered : Bool) (time : Instant) (p : Plant σ) :
    (b.healthTick powered time p).1.InRange := by
  refine ⟨h.roomy, All.stepChannels _ (fun fan c p hc => ?_) 0 b.channels p h.channels⟩
  simp only [checkChannel]
  repeat' split
  all_goals
    refine ⟨hc.limits, hc.target, ?_⟩
    first
    | exact hc.locked
    | exact fun locked => by cases locked

theorem InRange.controlTick (h : b.InRange) (powered : Bool) (time : Instant) (p : Plant σ) :
    (b.controlTick powered time p).1.InRange := by
  simp only [FanBank.controlTick]
  split
  · refine ⟨h.roomy, All.stepChannels _ (fun fan c p hc => ?_) 0 b.channels p h.channels⟩
    rw [controlChannel_fst]
    exact hc.steered _
  · exact h

theorem InRange.controlFits (h : b.InRange) (powered : Bool) (time : Instant) (p : Plant σ) :
    b.controlFits powered time p = true := by
  have channels : ∀ fan (c : FanChannel) (p : Plant σ), c.InRange b.config.band →
      channelFits b.config fan c p = true := fun fan c p hc => by
    simp only [channelFits, FanChannel.measureFits_of_roomy h.roomy, hc.errorFits h.roomy,
      Bool.or_true, Bool.and_self]
  simp only [FanBank.controlFits, stepsFit_of_all _ channels 0 b.channels p h.channels, Bool.or_true]

end FanBank

end BoardWarden
