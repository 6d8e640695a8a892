import BoardWarden.Proofs.Fan.Percent
import BoardWarden.Proofs.Fan.Steering

set_option autoImplicit false

namespace BoardWarden

open Settings (FanLimits)

namespace FanChannel

def aim (l : FanLimits) (actual percent : Nat) : Nat :=
  let rpm := rpmForDemand l actual percent
  if rpm = 0 then 0 else min (max rpm l.min) l.max

/-- The limits are valid, and the target is zero or lies between them. -/
structure OnTarget (c : FanChannel) : Prop where
  limits : c.limits.valid = true
  target : c.target = 0 ∨ (c.limits.min ≤ c.target ∧ c.target ≤ c.limits.max)

section Aim

variable {l : FanLimits} (valid : l.valid = true)

include valid

theorem rpmOfPercent_bounds {percent : Nat} (asked : percent ≠ 0) :
    l.min ≤ rpmOfPercent l percent ∧ rpmOfPercent l percent ≤ l.max := by
  obtain ⟨order, _, ceiling⟩ := FanLimits.bounds valid
  have inside : rise l.span (min percent 100 - 1) ≤ l.span := by
    have below := rise_mono l.span (show min percent 100 - 1 ≤ 99 by omega)
    rwa [rise_top] at below
  rw [rpmOfPercent_eq order (by omega) asked]
  simp only [FanLimits.span] at inside ⊢
  omega

/-- Whether a fan is kicked is up to its speed, and then it is asked for its starting speed at least. -/
theorem aim_eq (turning : 1 ≤ l.min) (actual : Nat) {percent : Nat} (asked : percent ≠ 0) :
    aim l actual percent =
      if tooSlow l actual then max (rpmOfPercent l percent) l.start else rpmOfPercent l percent := by
  obtain ⟨_, start, _⟩ := FanLimits.bounds valid
  obtain ⟨low, high⟩ := rpmOfPercent_bounds valid asked
  have turns : (rpmOfPercent l percent != 0) = true := by
    rw [bne_iff_ne]
    omega
  have kicked : rpmForDemand l actual percent =
      if tooSlow l actual then max (rpmOfPercent l percent) l.start else rpmOfPercent l percent := by
    simp only [rpmForDemand, turns, Bool.true_and, Bool.and_eq_true, decide_eq_true_eq]
    cases tooSlow l actual with
    | false => simp
    | true =>
      simp only [true_and, ↓reduceIte]
      split <;> omega
  have inside : l.min ≤ rpmForDemand l actual percent ∧ rpmForDemand l actual percent ≤ l.max := by
    rw [kicked]
    split <;> omega
  rw [← kicked, aim, if_neg (by omega)]
  omega

theorem aim_bounds (turning : 1 ≤ l.min) (actual : Nat) {percent : Nat} (asked : percent ≠ 0) :
    l.min ≤ aim l actual percent ∧ aim l actual percent ≤ l.max := by
  obtain ⟨_, start, _⟩ := FanLimits.bounds valid
  obtain ⟨low, high⟩ := rpmOfPercent_bounds valid asked
  rw [aim_eq valid turning actual asked]
  split <;> omega

omit valid in
@[simp] theorem aim_zero (actual : Nat) : aim l actual 0 = 0 := by
  simp [aim, rpmForDemand, rpmOfPercent]

theorem aim_eq_zero (turning : 1 ≤ l.min) (actual percent : Nat) :
    aim l actual percent = 0 ↔ percent = 0 := by
  constructor
  · intro rests
    refine Decidable.byContradiction fun asked => ?_
    have bounds := aim_bounds valid turning actual asked
    omega
  · rintro rfl
    exact aim_zero actual

omit valid in
theorem rpmOfPercent_capped (percent : Nat) :
    rpmOfPercent l (min percent 100) = rpmOfPercent l percent := by
  have asked : min percent 100 = 0 ↔ percent = 0 := by omega
  simp only [rpmOfPercent, asked, Nat.min_assoc, Nat.min_self]

theorem aim_mono (turning : 1 ≤ l.min) (actual : Nat) {percent percent' : Nat}
    (more : min percent 100 ≤ min percent' 100) :
    aim l actual percent ≤ aim l actual percent' := by
  obtain ⟨order, _, ceiling⟩ := FanLimits.bounds valid
  by_cases asked : percent = 0
  · rw [asked, aim_zero]
    exact Nat.zero_le _
  · have speeds := rpmOfPercent_mono order (by omega) more
    rw [rpmOfPercent_capped, rpmOfPercent_capped] at speeds
    rw [aim_eq valid turning actual asked, aim_eq valid turning actual (by omega)]
    split <;> omega

theorem start_le_aim (turning : 1 ≤ l.min) {actual percent : Nat} (slow : actual * 10 < l.min * 9)
    (asked : percent ≠ 0) : l.start ≤ aim l actual percent := by
  have kicked : tooSlow l actual = true := decide_eq_true slow
  rw [aim_eq valid turning actual asked, if_pos kicked]
  exact Nat.le_max_right _ _

end Aim

variable {c : FanChannel}

theorem setTarget_eq (order : c.limits.min ≤ c.limits.max) (rpm : Nat) :
    c.setTarget rpm = .ok { c with
      target := if rpm = 0 then 0 else min (max rpm c.limits.min) c.limits.max } := by
  simp only [setTarget, order, ↓reduceIte]
  split <;> rfl

theorem follow_eq (order : c.limits.min ≤ c.limits.max) (follows : c.followsDemand = true)
    (actual percent : Nat) :
    c.follow actual percent = .ok { c with target := aim c.limits actual percent } := by
  rw [follow, if_pos follows]
  exact setTarget_eq order _

theorem OnTarget.setTarget (h : c.OnTarget) (rpm : Nat) :
    ∃ c', c.setTarget rpm = .ok c' ∧ c'.OnTarget := by
  have order := Nat.le_of_lt (FanLimits.bounds h.limits).1
  refine ⟨_, setTarget_eq order rpm, h.limits, ?_⟩
  by_cases stops : rpm = 0
  · exact .inl (if_pos stops)
  · right
    simp only [stops, ↓reduceIte]
    omega

theorem OnTarget.follow (h : c.OnTarget) (actual percent : Nat) :
    ∃ c', c.follow actual percent = .ok c' ∧ c'.OnTarget := by
  simp only [FanChannel.follow]
  split
  · exact h.setTarget _
  · exact ⟨c, rfl, h⟩

theorem OnTarget.of_eq (h : c.OnTarget) {c' : FanChannel} (limits : c'.limits = c.limits)
    (target : c'.target = c.target) : c'.OnTarget := by
  refine ⟨?_, ?_⟩
  · rw [limits]
    exact h.limits
  · rw [limits, target]
    exact h.target

end FanChannel

namespace FanBank

open FanChannel (OnTarget)

variable {σ : Type} {b b' : FanBank}

theorem ofCount_onTarget (count : Nat) {limits : FanLimits} (valid : limits.valid = true)
    (config : FanConfig) : (ofCount count limits config).All OnTarget := by
  intro c hc
  obtain rfl : c = FanChannel.fresh limits := (List.mem_replicate.1 hc).2
  exact ⟨valid, .inl rfl⟩

theorem setTarget_onTarget (h : b.All OnTarget) (fan : FanId) (rpm : Nat) :
    ∃ b', b.setTarget fan rpm = .ok b' ∧ b'.All OnTarget := by
  simp only [setTarget]
  split
  · exact ⟨b, rfl, h⟩
  · rename_i c hc
    obtain ⟨c', aimed, on⟩ := ((all_iff _ b).1 h fan c hc).setTarget rpm
    rw [aimed]
    exact ⟨_, rfl, h.setChannel fan c c' hc fun _ => on⟩

variable [Board σ] {p : Plant σ}

theorem demand_eq {fan : FanId} {c : FanChannel} (hc : b.channel? fan = some c)
    (order : c.limits.min ≤ c.limits.max) (follows : c.followsDemand = true) (percent : Nat) :
    b.demand fan percent p = .ok (b.setChannel fan
      { c with target := FanChannel.aim c.limits (b.measured fan p) percent }) := by
  simp only [demand, hc, FanChannel.follow_eq order follows]
  rfl

theorem demand_onTarget (h : b.All OnTarget) (fan : FanId) (percent : Nat) (p : Plant σ) :
    ∃ b', b.demand fan percent p = .ok b' ∧ b'.All OnTarget := by
  simp only [demand]
  split
  · exact ⟨b, rfl, h⟩
  · rename_i c hc
    obtain ⟨c', followed, on⟩ := ((all_iff _ b).1 h fan c hc).follow (b.measured fan p) percent
    rw [followed]
    exact ⟨_, rfl, h.setChannel fan c c' hc fun _ => on⟩

theorem demandOf_onTarget (h : b.All OnTarget) (percent : Nat) (p : Plant σ) (fans : List FanId) :
    ∃ b', demandOf percent p fans b = .ok b' ∧ b'.All OnTarget := by
  induction fans generalizing b with
  | nil => exact ⟨b, rfl, h⟩
  | cons fan rest ih =>
    obtain ⟨b', asked, on⟩ := demand_onTarget h fan percent p
    simp only [demandOf, asked]
    exact ih on

theorem demand_spares {fan other : FanId} {percent : Nat} (asked : b.demand fan percent p = .ok b')
    {c : FanChannel} (hc : b.channel? other = some c) (free : c.followsDemand = false) :
    b'.channel? other = some c := by
  simp only [demand] at asked
  split at asked
  · cases asked
    exact hc
  · rename_i d hd
    cases followed : d.follow (b.measured fan p) percent with
    | error halt =>
      rw [followed] at asked
      cases asked
    | ok d' =>
      rw [followed] at asked
      cases asked
      rw [channel?_setChannel]
      split
      · rename_i same
        subst same
        obtain rfl := Option.some.inj (hd.symm.trans hc)
        simp only [FanChannel.follow, free, Bool.false_eq_true, ↓reduceIte] at followed
        cases followed
        rw [hc]
        rfl
      · exact hc

theorem demandOf_spares {percent : Nat} {fans : List FanId} {other : FanId} {c : FanChannel}
    (asked : demandOf percent p fans b = .ok b') (hc : b.channel? other = some c)
    (free : c.followsDemand = false) : b'.channel? other = some c := by
  induction fans generalizing b with
  | nil =>
    cases asked
    exact hc
  | cons fan rest ih =>
    simp only [demandOf] at asked
    split at asked
    · cases asked
    · rename_i d one
      exact ih asked (demand_spares one hc free)

theorem checkChannel_target (fan : FanId) (powered : Bool) (time : Instant) (c : FanChannel)
    (p : Plant σ) : (checkChannel fan powered time c p).1.target = c.target := by
  simp only [checkChannel]
  repeat' split
  all_goals rfl

theorem healthTick_onTarget (h : b.All OnTarget) (powered : Bool) (time : Instant) (p : Plant σ) :
    (b.healthTick powered time p).1.All OnTarget :=
  All.stepChannels _ (fun fan c p hc => hc.of_eq (checkChannel_limits fan powered time c p)
    (checkChannel_target fan powered time c p)) 0 b.channels p h

theorem controlTick_onTarget (h : b.All OnTarget) (powered : Bool) (time : Instant) (p : Plant σ) :
    (b.controlTick powered time p).1.All OnTarget := by
  simp only [controlTick]
  split
  · refine All.stepChannels _ (fun fan c p hc => ?_) 0 b.channels p h
    refine hc.of_eq (controlChannel_limits b.config fan time c p) ?_
    rw [controlChannel_fst]
    exact (c.steered_keeps _ _).2.2
  · exact h

theorem setEnabled_onTarget (h : b.All OnTarget) (fan : FanId) (on : Bool) (p : Plant σ) :
    (b.setEnabled fan on p).1.All OnTarget := by
  simp only [setEnabled]
  split
  · exact h
  · rename_i c hc
    split <;> exact h.setChannel fan c _ hc fun hc => hc.of_eq rfl rfl

theorem setDuty_onTarget (h : b.All OnTarget) (fan : FanId) (percent : Nat) (p : Plant σ) :
    (b.setDuty fan percent p).1.All OnTarget := by
  simp only [setDuty]
  split
  · exact h
  · rename_i c hc
    exact h.setChannel fan c _ hc fun hc => hc.of_eq rfl rfl

end FanBank

namespace FanOp

open FanChannel (OnTarget aim)

variable {σ : Type}

def KeepsLimits : FanOp σ → Prop
  | loadLimits _ _ => False
  | _ => True

variable [Board σ]

theorem apply_onTarget (op : FanOp σ) {b : FanBank} (h : b.All OnTarget) (keeps : op.KeepsLimits)
    (p : Plant (Watched σ)) : ∃ b' p', op.apply b p = .ok (b', p') ∧ b'.All OnTarget := by
  cases op with
  | enable fan on => exact ⟨_, _, rfl, FanBank.setEnabled_onTarget h fan on p⟩
  | mode fan mode | follow fan follows =>
    exact ⟨_, _, rfl, h.modify fan _ fun c hc => hc.of_eq rfl rfl⟩
  | duty fan percent => exact ⟨_, _, rfl, FanBank.setDuty_onTarget h fan percent p⟩
  | target fan rpm =>
    obtain ⟨b', aimed, on⟩ := FanBank.setTarget_onTarget h fan rpm
    exact ⟨b', p, by simp only [apply, aimed, Except.map], on⟩
  | demand fan percent =>
    obtain ⟨b', asked, on⟩ := FanBank.demand_onTarget h fan percent p
    exact ⟨b', p, by simp only [apply, asked, Except.map], on⟩
  | demandAll percent =>
    obtain ⟨b', asked, on⟩ := FanBank.demandOf_onTarget h percent p b.fans
    exact ⟨b', p, by simp only [apply, FanBank.applyDemand, asked, Except.map], on⟩
  | loadLimits store time => cases keeps
  | health powered time => exact ⟨_, _, rfl, FanBank.healthTick_onTarget h powered time p⟩
  | control powered time => exact ⟨_, _, rfl, FanBank.controlTick_onTarget h powered time p⟩
  | outside board journal => exact ⟨_, _, rfl, h⟩

theorem run_onTarget (ops : List (FanOp σ)) {b : FanBank} (h : b.All OnTarget)
    (keep : ∀ op ∈ ops, op.KeepsLimits) (p : Plant (Watched σ)) :
    ∃ b' p', run ops b p = .ok (b', p') ∧ b'.All OnTarget := by
  induction ops generalizing b p with
  | nil => exact ⟨b, p, rfl, h⟩
  | cons op rest ih =>
    obtain ⟨first, others⟩ := List.forall_mem_cons.1 keep
    obtain ⟨b', p', applied, on⟩ := op.apply_onTarget h first p
    simp only [run, applied]
    exact ih on others p'

def kicking : FanLimits := ⟨4000, 5000, 16000⟩

def kickOff : List (FanOp Bench) :=
  [.enable ⟨0⟩ true, .demand ⟨0⟩ 1,
    .outside (Carrier.bench.onTach ⟨0⟩ (·.spin 20000)) Journal.fresh, .demand ⟨0⟩ 1,
    .follow ⟨0⟩ false, .demandAll 100]

end FanOp

end BoardWarden
