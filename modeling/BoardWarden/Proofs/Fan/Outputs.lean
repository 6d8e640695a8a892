import BoardWarden.Bench.Wiring
import BoardWarden.Proofs.Controller.Fans
import BoardWarden.Proofs.Fan.Limits
import BoardWarden.Proofs.Power.Train
import BoardWarden.Proofs.Rail.Tape

set_option autoImplicit false

namespace BoardWarden

open Settings (FanLimits Store)

def PwmChannel.after (o : PwmChannel) (fan : FanId) : Call → PwmChannel
  | .setDuty other duty => if other = fan then { o with duty } else o
  | .setOutput other on => if other = fan then { o with on } else o
  | _ => o

namespace Plant

variable {σ : Type}

def output (p : Plant (Watched σ)) (fan : FanId) : PwmChannel :=
  p.board.tape.foldr (fun entry o => o.after fan entry.1) ⟨0, false⟩

variable [Board σ] (p : Plant (Watched σ)) (fan other : FanId)

@[simp] theorem output_setDuty (duty : Nat) : (p.setDuty fan duty).output other =
    if fan = other then { p.output other with duty } else p.output other := rfl

@[simp] theorem output_setOutput (on : Bool) : (p.setOutput fan on).output other =
    if fan = other then { p.output other with on } else p.output other := rfl

@[simp] theorem output_clearPeriod : (p.clearPeriod fan).output other = p.output other := rfl

omit [Board σ] in
@[simp] theorem output_recordAt (event : Event) (reading : Reading) (time : Instant) :
    (p.recordAt event reading time).output other = p.output other := rfl

end Plant

namespace FanChannel

theorem correction_bounds (band : Nat) (error : Int) (duty next : Nat)
    (moved : correction band error duty = .move next) :
    next ≤ duty + 10 ∧ duty ≤ next + 10 ∧ (duty ≤ 100 → next ≤ 100) := by
  have step : dutyStep error.natAbs ≤ 10 := by
    simp only [dutyStep]
    repeat' split
    all_goals omega
  simp only [correction] at moved
  repeat' split at moved
  all_goals
    cases moved
    try omega

end FanChannel

namespace FanBank

variable {σ : Type}

/-- Every channel has the duty of its output on record, and no more than a hundred percent. -/
def Agrees (b : FanBank) (p : Plant (Watched σ)) : Prop :=
  ∀ fan c, b.channel? fan = some c → (p.output fan).duty = c.duty ∧ c.duty ≤ 100

def Apart (fan : FanId) (b : FanBank) (p : Plant (Watched σ)) (b' : FanBank)
    (p' : Plant (Watched σ)) : Prop :=
  ∀ other, other ≠ fan → b'.channel? other = b.channel? other ∧ p'.output other = p.output other

variable {b b' : FanBank} {p p' : Plant (Watched σ)}

/-- Agreement is kept where the duty of a channel stays or is written to the output. -/
theorem Agrees.next (h : b.Agrees p)
    (step : ∀ fan c', b'.channel? fan = some c' →
      (∃ c, b.channel? fan = some c ∧ c'.duty = c.duty ∧ (p'.output fan).duty = (p.output fan).duty) ∨
        ((p'.output fan).duty = c'.duty ∧ c'.duty ≤ 100)) : b'.Agrees p' := by
  intro fan c' hc'
  rcases step fan c' hc' with ⟨c, hc, duty, output⟩ | written
  · rw [duty, output]
    exact h fan c hc
  · exact written

theorem Agrees.setChannel (h : b.Agrees p) {fan : FanId} {c c' : FanChannel}
    (hc : b.channel? fan = some c) (kept : c'.duty = c.duty) : (b.setChannel fan c').Agrees p := by
  refine h.next fun other d hd => .inl ?_
  rw [channel?_setChannel] at hd
  split at hd
  · rename_i same
    subst same
    rw [hc] at hd
    cases hd
    exact ⟨c, hc, kept, rfl⟩
  · exact ⟨d, hd, rfl, rfl⟩

theorem Agrees.modify (h : b.Agrees p) (fan : FanId) {f : FanChannel → FanChannel}
    (kept : ∀ c, (f c).duty = c.duty) : (b.modify fan f).Agrees p := by
  refine h.next fun other d hd => .inl ?_
  rw [channel?_modify] at hd
  split at hd
  · obtain ⟨c, hc, rfl⟩ := Option.map_eq_some_iff.1 hd
    exact ⟨c, hc, kept c, rfl⟩
  · exact ⟨d, hd, rfl, rfl⟩

theorem setChannel_apart (b : FanBank) (fan : FanId) (c : FanChannel) (p : Plant (Watched σ)) :
    Apart fan b p (b.setChannel fan c) p := by
  intro other apart
  rw [channel?_setChannel, if_neg (Ne.symm apart)]
  exact ⟨rfl, rfl⟩

theorem modify_apart (b : FanBank) (fan : FanId) (f : FanChannel → FanChannel)
    (p : Plant (Watched σ)) : Apart fan b p (b.modify fan f) p := by
  intro other apart
  rw [channel?_modify, if_neg (Ne.symm apart)]
  exact ⟨rfl, rfl⟩

theorem setTarget_cases {fan : FanId} {rpm : Nat} (h : b.setTarget fan rpm = .ok b') :
    b' = b ∨ ∃ c c', b.channel? fan = some c ∧ c'.duty = c.duty ∧ b' = b.setChannel fan c' := by
  simp only [setTarget] at h
  split at h
  · cases h
    exact .inl rfl
  · rename_i c hc
    cases aimed : c.setTarget rpm with
    | error halt =>
      rw [aimed] at h
      cases h
    | ok c' =>
      rw [aimed] at h
      cases h
      refine .inr ⟨c, c', hc, ?_, rfl⟩
      simp only [FanChannel.setTarget] at aimed
      repeat' split at aimed
      all_goals
        cases aimed
        try rfl

variable [Board σ]

theorem demand_cases {fan : FanId} {percent : Nat} (h : b.demand fan percent p = .ok b') :
    b' = b ∨ ∃ c c', b.channel? fan = some c ∧ c'.duty = c.duty ∧ b' = b.setChannel fan c' := by
  simp only [demand] at h
  split at h
  · cases h
    exact .inl rfl
  · rename_i c hc
    cases followed : c.follow (b.measured fan p) percent with
    | error halt =>
      rw [followed] at h
      cases h
    | ok c' =>
      rw [followed] at h
      cases h
      exact .inr ⟨c, c', hc, (c.follow_keeps c' _ _ followed).2.2, rfl⟩

theorem Agrees.demandOf (h : b.Agrees p) (percent : Nat) (fans : List FanId)
    (asked : FanBank.demandOf percent p fans b = .ok b') : b'.Agrees p := by
  induction fans generalizing b with
  | nil =>
    cases asked
    exact h
  | cons fan rest ih =>
    simp only [FanBank.demandOf] at asked
    split at asked
    · cases asked
    · rename_i d one
      refine ih ?_ asked
      rcases demand_cases one with rfl | ⟨c, c', hc, kept, rfl⟩
      · exact h
      · exact h.setChannel hc kept

theorem setEnabled_apart (b : FanBank) (fan : FanId) (on : Bool) (p : Plant (Watched σ)) :
    Apart fan b p (b.setEnabled fan on p).1 (b.setEnabled fan on p).2 := by
  intro other apart
  rw [channel?_setEnabled, if_neg (Ne.symm apart)]
  refine ⟨rfl, ?_⟩
  simp only [setEnabled]
  repeat' split
  all_goals simp [Ne.symm apart]

theorem setDuty_apart (b : FanBank) (fan : FanId) (percent : Nat) (p : Plant (Watched σ)) :
    Apart fan b p (b.setDuty fan percent p).1 (b.setDuty fan percent p).2 := by
  intro other apart
  rw [channel?_setDuty, if_neg (Ne.symm apart)]
  refine ⟨rfl, ?_⟩
  simp only [setDuty]
  split <;> simp [Ne.symm apart]

omit [Board σ] in
theorem Agrees.at (h : b.Agrees p) {fan : FanId} (apart : Apart fan b p b' p')
    (here : ∀ c', b'.channel? fan = some c' →
      (p'.output fan).duty = c'.duty ∧ c'.duty ≤ 100) : b'.Agrees p' := by
  intro other c' hc'
  by_cases same : other = fan
  · subst same
    exact here c' hc'
  · obtain ⟨channel, output⟩ := apart other same
    rw [output]
    exact h other c' (channel ▸ hc')

theorem Agrees.setEnabled (h : b.Agrees p) (fan : FanId) (on : Bool) :
    (b.setEnabled fan on p).1.Agrees (b.setEnabled fan on p).2 := by
  refine h.at (b.setEnabled_apart fan on p) fun c' hc' => ?_
  rw [channel?_setEnabled, if_pos rfl] at hc'
  obtain ⟨c, hc, rfl⟩ := Option.map_eq_some_iff.1 hc'
  simp only [FanBank.setEnabled, hc]
  cases on with
  | true => simpa [switched] using h fan c hc
  | false => simp [switched]

theorem Agrees.setDuty (h : b.Agrees p) (fan : FanId) (percent : Nat) :
    (b.setDuty fan percent p).1.Agrees (b.setDuty fan percent p).2 := by
  refine h.at (b.setDuty_apart fan percent p) fun c' hc' => ?_
  rw [channel?_setDuty, if_pos rfl] at hc'
  obtain ⟨c, hc, rfl⟩ := Option.map_eq_some_iff.1 hc'
  simp only [FanBank.setDuty, hc, Plant.output_setDuty, ↓reduceIte, true_and]
  exact Nat.min_le_right percent 100

omit [Board σ] in
theorem loadChannels_duty (store : Store) (time : Instant) (first : Nat)
    (channels : List FanChannel) (j : Journal) :
    (loadChannels store time first channels j).1.map FanChannel.duty =
      channels.map FanChannel.duty := by
  induction channels generalizing first j with
  | nil => rfl
  | cons c rest ih =>
    simp only [loadChannels]
    repeat' split
    all_goals simp only [List.map_cons, ih]

omit [Board σ] in
theorem Agrees.loadLimits (h : b.Agrees p) (store : Store) (time : Instant) (j j' : Journal) :
    (b.loadLimits store time j).1.Agrees { p with journal := j' } := by
  refine h.next fun fan c' hc' => .inl ?_
  have kept := congrArg (·[fan.index]?) (loadChannels_duty store time 0 b.channels j)
  simp only [List.getElem?_map] at kept
  rw [show (loadChannels store time 0 b.channels j).1[fan.index]? = some c' from hc'] at kept
  obtain ⟨c, hc, duty⟩ := Option.map_eq_some_iff.1 kept.symm
  exact ⟨c, hc, duty.symm, rfl⟩

omit [Board σ] in
theorem stepChannels_length
    (step : FanId → FanChannel → Plant (Watched σ) → FanChannel × Plant (Watched σ)) (first : Nat)
    (channels : List FanChannel) (p : Plant (Watched σ)) :
    (stepChannels step first channels p).1.length = channels.length := by
  induction channels generalizing first p with
  | nil => rfl
  | cons c rest ih => exact congrArg (· + 1) (ih _ _)

section Steps

variable {τ α : Type} {step : FanId → FanChannel → Plant τ → FanChannel × Plant τ}
  (view : Plant τ → FanId → α)
  (own : ∀ fan c (p : Plant τ) other, other ≠ fan → view (step fan c p).2 other = view p other)

include own

theorem stepChannels_before (first : Nat) (channels : List FanChannel) (p : Plant τ) (fan : FanId)
    (before : fan.index < first) :
    view (stepChannels step first channels p).2 fan = view p fan := by
  induction channels generalizing first p with
  | nil => rfl
  | cons c rest ih =>
    have apart : fan ≠ ⟨first⟩ := fun same => by
      rw [same] at before
      exact Nat.lt_irrefl _ before
    exact (ih _ _ (Nat.lt_succ_of_lt before)).trans (own ⟨first⟩ c p fan apart)

/-- Each channel takes its step on the plant that the channels before it have left, where its own fan
is as it was at the start. -/
theorem stepChannels_at (first : Nat) (channels : List FanChannel) (p : Plant τ) (i : Nat)
    (c : FanChannel) (hc : channels[i]? = some c) :
    let q := (stepChannels step first (channels.take i) p).2
    view q ⟨first + i⟩ = view p ⟨first + i⟩ ∧
      (stepChannels step first channels p).1[i]? = some (step ⟨first + i⟩ c q).1 ∧
      view (stepChannels step first channels p).2 ⟨first + i⟩ =
        view (step ⟨first + i⟩ c q).2 ⟨first + i⟩ := by
  induction channels generalizing first p i with
  | nil => cases hc
  | cons head rest ih =>
    cases i with
    | zero =>
      obtain rfl : head = c := by simpa using hc
      exact ⟨rfl, rfl, stepChannels_before view own (first + 1) rest _ ⟨first⟩ (Nat.lt_succ_self _)⟩
    | succ i =>
      obtain ⟨before, channel, after⟩ := ih (first + 1) (step ⟨first⟩ head p).2 i hc
      have index : first + 1 + i = first + (i + 1) := by omega
      rw [index] at before channel after
      -- The head has had its step, which left the fan of this channel alone.
      have apart : (⟨first + (i + 1)⟩ : FanId) ≠ ⟨first⟩ := by simp
      exact ⟨before.trans (own ⟨first⟩ head p _ apart), channel, after⟩

theorem ticked_at (b : FanBank) (p : Plant τ) {fan : FanId} {c : FanChannel}
    (hc : b.channel? fan = some c) :
    let q := (stepChannels step 0 (b.channels.take fan.index) p).2
    view q fan = view p fan ∧
      (stepChannels step 0 b.channels p).1[fan.index]? = some (step fan c q).1 ∧
      view (stepChannels step 0 b.channels p).2 fan = view (step fan c q).2 fan := by
  have here := stepChannels_at view own 0 b.channels p fan.index c hc
  rwa [Nat.zero_add] at here

end Steps

omit [Board σ] in
theorem Agrees.ticked {step : FanId → FanChannel → Plant (Watched σ) → FanChannel × Plant (Watched σ)}
    (own : ∀ fan c (p : Plant (Watched σ)) other, other ≠ fan →
      (step fan c p).2.output other = p.output other) (h : b.Agrees p)
    (kept : ∀ fan c (q : Plant (Watched σ)), (q.output fan).duty = c.duty → c.duty ≤ 100 →
      ((step fan c q).2.output fan).duty = (step fan c q).1.duty ∧ (step fan c q).1.duty ≤ 100) :
    Agrees { b with channels := (stepChannels step 0 b.channels p).1 }
      (stepChannels step 0 b.channels p).2 := by
  intro fan c' hc'
  have inside : fan.index < b.channels.length := by
    rw [← stepChannels_length step 0 b.channels p]
    exact (List.getElem?_eq_some_iff.1 hc').1
  have hc : b.channel? fan = some b.channels[fan.index] := List.getElem?_eq_getElem inside
  obtain ⟨duty, bound⟩ := h fan _ hc
  obtain ⟨before, channel, after⟩ := ticked_at Plant.output own b p hc
  obtain rfl := Option.some.inj (hc'.symm.trans channel)
  rw [after]
  exact kept fan _ _ (by rw [before, duty]) bound

theorem checkChannel_keeps (fan : FanId) (powered : Bool) (time : Instant) (c : FanChannel)
    (p : Plant (Watched σ)) (other : FanId) :
    (checkChannel fan powered time c p).2.output other = p.output other := by
  simp only [checkChannel]
  repeat' split
  all_goals simp

theorem controlChannel_moves (config : FanConfig) (fan : FanId) (time : Instant) (c : FanChannel)
    (p : Plant (Watched σ)) :
    let done := controlChannel config fan time c p
    (∀ other, other ≠ fan → done.2.output other = p.output other) ∧
      ((done.2.output fan).duty = done.1.duty ∨
        (done.2.output fan = p.output fan ∧ done.1.duty = c.duty)) ∧
      done.1.duty ≤ c.duty + 10 ∧ c.duty ≤ done.1.duty + 10 ∧
        (c.duty ≤ 100 → done.1.duty ≤ 100) := by
  have still : c.duty ≤ c.duty + 10 ∧ c.duty ≤ c.duty + 10 ∧ (c.duty ≤ 100 → c.duty ≤ 100) :=
    ⟨Nat.le_add_right .., Nat.le_add_right .., id⟩
  simp only [controlChannel]
  split
  · exact ⟨fun _ _ => rfl, .inr ⟨rfl, rfl⟩, still⟩
  · split
    · exact ⟨fun _ _ => rfl, .inr ⟨rfl, rfl⟩, still⟩
    · rename_i duty moved
      refine ⟨fun other apart => ?_, .inl ?_, FanChannel.correction_bounds _ _ _ _ moved⟩
      · rw [Plant.output_setDuty, if_neg (Ne.symm apart)]
      · rw [Plant.output_setDuty, if_pos rfl]
    · refine ⟨fun other apart => ?_, .inr ⟨?_, rfl⟩, still⟩
      all_goals
        split
        · rfl
        · exact Plant.output_recordAt _ _ _ _ _

theorem Agrees.healthTick (h : b.Agrees p) (powered : Bool) (time : Instant) :
    (b.healthTick powered time p).1.Agrees (b.healthTick powered time p).2 := by
  refine Agrees.ticked (fun fan c p other _ => checkChannel_keeps fan powered time c p other) h
    fun fan c q duty bound => ?_
  have kept := (FanChannel.check_keeps fan powered time c q).2.2
  rw [checkChannel_keeps, kept]
  exact ⟨duty, bound⟩

theorem Agrees.controlTick (h : b.Agrees p) (powered : Bool) (time : Instant) :
    (b.controlTick powered time p).1.Agrees (b.controlTick powered time p).2 := by
  simp only [FanBank.controlTick]
  split
  · refine Agrees.ticked (fun fan c p => (controlChannel_moves b.config fan time c p).1) h
      fun fan c q duty bound => ?_
    obtain ⟨_, written | ⟨output, kept⟩, _, _, capped⟩ := controlChannel_moves b.config fan time c q
    · exact ⟨written, capped bound⟩
    · exact ⟨by rw [output, kept, duty], capped bound⟩
  · exact h

theorem controlTick_bounded (b : FanBank) (p : Plant (Watched σ)) (powered : Bool) (time : Instant)
    {fan : FanId} {c : FanChannel} (hc : b.channel? fan = some c) :
    ∃ c', (b.controlTick powered time p).1.channel? fan = some c' ∧
      c'.duty ≤ c.duty + 10 ∧ c.duty ≤ c'.duty + 10 := by
  simp only [FanBank.controlTick]
  split
  · obtain ⟨_, channel, _⟩ := ticked_at Plant.output
      (fun fan c p => (controlChannel_moves b.config fan time c p).1) b p hc
    obtain ⟨_, _, up, down, _⟩ := controlChannel_moves b.config fan time c (stepChannels _ _ _ p).2
    exact ⟨_, channel, up, down⟩
  · exact ⟨c, hc, Nat.le_add_right .., Nat.le_add_right ..⟩

end FanBank

inductive FanOp (σ : Type) where
  | enable (fan : FanId) (on : Bool)
  | mode (fan : FanId) (mode : FanMode)
  | duty (fan : FanId) (percent : Nat)
  | target (fan : FanId) (rpm : Nat)
  | follow (fan : FanId) (follows : Bool)
  | demand (fan : FanId) (percent : Nat)
  | demandAll (percent : Nat)
  | loadLimits (store : Store) (time : Instant)
  | health (powered : Bool) (time : Instant)
  | control (powered : Bool) (time : Instant)
  /-- Time passes, fans turn, and others write to the journal. -/
  | outside (board : σ) (journal : Journal)

namespace FanOp

variable {σ : Type}

def fan? : FanOp σ → Option FanId
  | enable fan _ | mode fan _ | duty fan _ | target fan _ | follow fan _ | demand fan _ => some fan
  | _ => none

variable [Board σ]

def apply (op : FanOp σ) (b : FanBank) (p : Plant (Watched σ)) :
    Except Halt (FanBank × Plant (Watched σ)) :=
  match op with
  | enable fan on =>
    let set := b.setEnabled fan on p
    .ok (set.1, set.2)
  | mode fan set => .ok (b.setMode fan set, p)
  | duty fan percent =>
    let set := b.setDuty fan percent p
    .ok (set.1, set.2)
  | target fan rpm => (b.setTarget fan rpm).map fun b => (b, p)
  | follow fan follows => .ok (b.setFollowsDemand fan follows, p)
  | demand fan percent => (b.demand fan percent p).map fun b => (b, p)
  | demandAll percent => (b.applyDemand percent p).map fun b => (b, p)
  | loadLimits store time =>
    let loaded := b.loadLimits store time p.journal
    .ok (loaded.1, { p with journal := loaded.2 })
  | health powered time =>
    let checked := b.healthTick powered time p
    .ok (checked.1, checked.2)
  | control powered time =>
    let controlled := b.controlTick powered time p
    .ok (controlled.1, controlled.2)
  | outside board journal => .ok (b, ⟨{ p.board with board }, journal⟩)

def run : List (FanOp σ) → FanBank → Plant (Watched σ) → Except Halt (FanBank × Plant (Watched σ))
  | [], b, p => .ok (b, p)
  | op :: rest, b, p =>
    match op.apply b p with
    | .error halt => .error halt
    | .ok (b, p) => run rest b p

theorem apply_ok (op : FanOp σ) (b : FanBank) (p : Plant (Watched σ)) (order : b.InOrder) :
    ∃ b' p', op.apply b p = .ok (b', p') ∧ b'.InOrder := by
  cases op with
  | enable fan on => exact ⟨_, _, rfl, order.of_limits (b.setEnabled_limits fan on p)⟩
  | mode fan mode => exact ⟨_, _, rfl, order.of_limits (b.modify_limits fan _ fun _ => rfl)⟩
  | duty fan percent => exact ⟨_, _, rfl, order.of_limits (b.setDuty_limits fan percent p)⟩
  | target fan rpm =>
    obtain ⟨b', aimed, limits⟩ := b.setTarget_ok fan rpm order
    exact ⟨b', p, by simp only [apply, aimed, Except.map], order.of_limits limits⟩
  | follow fan follows => exact ⟨_, _, rfl, order.of_limits (b.modify_limits fan _ fun _ => rfl)⟩
  | demand fan percent =>
    obtain ⟨b', asked, limits⟩ := b.demand_ok fan percent p order
    exact ⟨b', p, by simp only [apply, asked, Except.map], order.of_limits limits⟩
  | demandAll percent =>
    obtain ⟨b', asked, limits⟩ := b.applyDemand_ok percent p order
    exact ⟨b', p, by simp only [apply, asked, Except.map], order.of_limits limits⟩
  | loadLimits store time => exact ⟨_, _, rfl, b.loadLimits_inOrder store time p.journal order⟩
  | health powered time => exact ⟨_, _, rfl, order.of_limits (b.healthTick_limits powered time p)⟩
  | control powered time => exact ⟨_, _, rfl, order.of_limits (b.controlTick_limits powered time p)⟩
  | outside board journal => exact ⟨_, _, rfl, order⟩

theorem apply_agrees {op : FanOp σ} {b b' : FanBank} {p p' : Plant (Watched σ)}
    (applied : op.apply b p = .ok (b', p')) (h : b.Agrees p) : b'.Agrees p' := by
  cases op with
  | enable fan on =>
    cases applied
    exact h.setEnabled fan on
  | mode fan mode | follow fan follows =>
    cases applied
    exact h.modify fan fun _ => rfl
  | duty fan percent =>
    cases applied
    exact h.setDuty fan percent
  | target fan rpm =>
    obtain ⟨d, aimed, same⟩ := map_ok applied
    cases same
    rcases FanBank.setTarget_cases aimed with rfl | ⟨c, c', hc, kept, rfl⟩
    · exact h
    · exact h.setChannel hc kept
  | demand fan percent =>
    obtain ⟨d, asked, same⟩ := map_ok applied
    cases same
    rcases FanBank.demand_cases asked with rfl | ⟨c, c', hc, kept, rfl⟩
    · exact h
    · exact h.setChannel hc kept
  | demandAll percent =>
    obtain ⟨d, asked, same⟩ := map_ok applied
    cases same
    exact h.demandOf percent b.fans asked
  | loadLimits store time =>
    cases applied
    exact h.loadLimits store time p.journal _
  | health powered time =>
    cases applied
    exact h.healthTick powered time
  | control powered time =>
    cases applied
    exact h.controlTick powered time
  | outside board journal =>
    cases applied
    exact h

theorem apply_apart {op : FanOp σ} {b b' : FanBank} {p p' : Plant (Watched σ)} {fan : FanId}
    (applied : op.apply b p = .ok (b', p')) (about : op.fan? = some fan) :
    FanBank.Apart fan b p b' p' := by
  cases op with
  | enable fan on =>
    cases about
    cases applied
    exact b.setEnabled_apart _ on p
  | mode fan mode | follow fan follows =>
    cases about
    cases applied
    exact b.modify_apart _ _ p
  | duty fan percent =>
    cases about
    cases applied
    exact b.setDuty_apart _ percent p
  | target fan rpm =>
    cases about
    obtain ⟨d, aimed, same⟩ := map_ok applied
    cases same
    rcases FanBank.setTarget_cases aimed with rfl | ⟨c, c', hc, kept, rfl⟩
    · exact fun _ _ => ⟨rfl, rfl⟩
    · exact b.setChannel_apart _ c' p
  | demand fan percent =>
    cases about
    obtain ⟨d, asked, same⟩ := map_ok applied
    cases same
    rcases FanBank.demand_cases asked with rfl | ⟨c, c', hc, kept, rfl⟩
    · exact fun _ _ => ⟨rfl, rfl⟩
    · exact b.setChannel_apart _ c' p
  | _ => cases about

theorem run_ok (ops : List (FanOp σ)) (b : FanBank) (p : Plant (Watched σ)) (order : b.InOrder) :
    ∃ b' p', run ops b p = .ok (b', p') ∧ b'.InOrder := by
  induction ops generalizing b p with
  | nil => exact ⟨b, p, rfl, order⟩
  | cons op rest ih =>
    obtain ⟨b', p', applied, order'⟩ := op.apply_ok b p order
    simp only [run, applied]
    exact ih b' p' order'

theorem run_keeps_duties {ops : List (FanOp σ)} {b b' : FanBank} {p p' : Plant (Watched σ)}
    (ran : run ops b p = .ok (b', p')) (h : b.Agrees p) : b'.Agrees p' := by
  induction ops generalizing b p with
  | nil =>
    cases ran
    exact h
  | cons op rest ih =>
    simp only [run] at ran
    split at ran
    · cases ran
    · rename_i c q applied
      exact ih ran (apply_agrees applied h)

/-- From a fresh start, with the built-in limits in order, every run of operations comes to an end in
which each channel has the duty of its output on record, a hundred percent at most. Of the operations
that may follow, a control tick moves each duty by ten percent at most, and an operation on one fan
leaves the channels and the outputs of the others as they are. -/
theorem duties_agree (count : Nat) (limits : FanLimits) (order : limits.min ≤ limits.max)
    (config : FanConfig) (plant : Plant σ) (ops : List (FanOp σ)) :
    ∃ b p, run ops (FanBank.ofCount count limits config) plant.watch = .ok (b, p) ∧
      (∀ fan c, b.channel? fan = some c → (p.output fan).duty = c.duty ∧ c.duty ≤ 100) ∧
      ∀ op : FanOp σ, ∃ b' p', op.apply b p = .ok (b', p') ∧
        (∀ powered time, op = .control powered time → ∀ fan c, b.channel? fan = some c →
          ∃ c', b'.channel? fan = some c' ∧ (p'.output fan).duty = c'.duty ∧
            c'.duty ≤ c.duty + 10 ∧ c.duty ≤ c'.duty + 10) ∧
        ∀ fan, op.fan? = some fan → ∀ other, other ≠ fan →
          b'.channel? other = b.channel? other ∧ p'.output other = p.output other := by
  have fresh : (FanBank.ofCount count limits config).Agrees plant.watch := by
    intro fan c hc
    obtain rfl : c = FanChannel.fresh limits :=
      (List.mem_replicate.1 (List.mem_of_getElem? hc)).2
    exact ⟨rfl, Nat.zero_le 100⟩
  obtain ⟨b, p, ran, order'⟩ := run_ok ops (FanBank.ofCount count limits config) plant.watch
    (FanBank.ofCount_inOrder count limits config order)
  have agree := run_keeps_duties ran fresh
  refine ⟨b, p, ran, agree, fun op => ?_⟩
  obtain ⟨b', p', applied, _⟩ := op.apply_ok b p order'
  refine ⟨b', p', applied, fun powered time same fan c hc => ?_,
    fun fan about => apply_apart applied about⟩
  have agree' := apply_agrees applied agree
  subst same
  cases applied
  obtain ⟨c', hc', up, down⟩ := b.controlTick_bounded p powered time hc
  exact ⟨c', hc', (agree' fan c' hc').1, up, down⟩

def spinUp : List (FanOp Bench) :=
  [.enable ⟨0⟩ true, .enable ⟨1⟩ true, .demandAll 60, .control true Instant.zero,
    .outside (Carrier.bench.spinAll 20 0) Journal.fresh, .health true Instant.zero,
    .control true Instant.zero, .mode ⟨1⟩ .manual, .duty ⟨1⟩ 250]

theorem carrier_duties :
    FanLimits.builtIn.min ≤ FanLimits.builtIn.max ∧
    ∃ b p, run spinUp (FanBank.ofCount Carrier.fanCount FanLimits.builtIn FanConfig.builtIn)
        (⟨Carrier.bench, Journal.fresh⟩ : Plant Bench).watch = .ok (b, p) ∧
      p.output ⟨0⟩ = ⟨20, true⟩ ∧ p.output ⟨1⟩ = ⟨100, true⟩ ∧
      ∃ b' p', (FanOp.enable ⟨0⟩ false).apply b p = .ok (b', p') ∧
        p'.output ⟨1⟩ = ⟨100, true⟩ := by
  have order : FanLimits.builtIn.min ≤ FanLimits.builtIn.max := by decide
  obtain ⟨b, p, ran, _, next⟩ := duties_agree Carrier.fanCount FanLimits.builtIn order
    FanConfig.builtIn (⟨Carrier.bench, Journal.fresh⟩ : Plant Bench) spinUp
  obtain ⟨done, ran', first, second⟩ : ∃ done, run spinUp
        (FanBank.ofCount Carrier.fanCount FanLimits.builtIn FanConfig.builtIn)
        (⟨Carrier.bench, Journal.fresh⟩ : Plant Bench).watch = .ok done ∧
      done.2.output ⟨0⟩ = ⟨20, true⟩ ∧ done.2.output ⟨1⟩ = ⟨100, true⟩ := by
    decide +kernel
  obtain rfl : (b, p) = done := Except.ok.inj (ran.symm.trans ran')
  obtain ⟨b', p', applied, _, apart⟩ := next (.enable ⟨0⟩ false)
  have kept := (apart ⟨0⟩ rfl ⟨1⟩ (by decide)).2
  exact ⟨order, b, p, ran, first, second, b', p', applied, kept.trans second⟩

end FanOp

end BoardWarden
