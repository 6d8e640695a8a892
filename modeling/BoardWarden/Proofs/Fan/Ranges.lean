import BoardWarden.Proofs.Fan.Words

set_option autoImplicit false

namespace BoardWarden

open Settings (FanLimits Store)

namespace FanBank

variable {σ : Type}

def look? (b : FanBank) (fan : FanId) (ask : FanChannel → Option Nat) : Option Nat :=
  match b.channel? fan with
  | none => some 0
  | some c => ask c

def rpmOfPercent? (b : FanBank) (fan : FanId) (percent : Nat) : Option Nat :=
  b.look? fan fun c => FanChannel.rpmOfPercent? c.limits percent

def percentOfRpm? (b : FanBank) (fan : FanId) (rpm : Nat) : Option Nat :=
  b.look? fan fun c => FanChannel.percentOfRpm? c.limits rpm

def stepChannels? (step : FanId → FanChannel → Plant σ → Option (FanChannel × Plant σ)) :
    Nat → List FanChannel → Plant σ → Option (List FanChannel × Plant σ)
  | _, [], p => some ([], p)
  | first, c :: rest, p => do
    let done ← step ⟨first⟩ c p
    let others ← stepChannels? step (first + 1) rest done.2
    return (done.1 :: others.1, others.2)

variable {b : FanBank}

theorem look?_eq {fan : FanId} {ask : FanChannel → Option Nat} {answer : FanChannel → Nat}
    (same : ∀ c, b.channel? fan = some c → ask c = some (answer c)) :
    b.look? fan ask = some (match b.channel? fan with | none => 0 | some c => answer c) := by
  cases hc : b.channel? fan with
  | none => simp only [look?, hc]
  | some c => simp only [look?, hc, same c hc]

theorem InRange.rpmOfPercent?_eq (h : b.InRange) (fan : FanId) (percent : Nat) :
    b.rpmOfPercent? fan percent = some (b.rpmOfPercent fan percent) :=
  look?_eq fun _ hc => FanChannel.rpmOfPercent?_eq (h.channel hc).limits percent

theorem InRange.percentOfRpm?_eq (h : b.InRange) (fan : FanId) (rpm : Nat) :
    b.percentOfRpm? fan rpm = some (b.percentOfRpm fan rpm) :=
  look?_eq fun _ hc => FanChannel.percentOfRpm?_eq (h.channel hc).limits rpm

theorem stepChannels?_eq {P : FanChannel → Prop}
    {step? : FanId → FanChannel → Plant σ → Option (FanChannel × Plant σ)}
    {step : FanId → FanChannel → Plant σ → FanChannel × Plant σ}
    (same : ∀ fan c p, P c → step? fan c p = some (step fan c p)) (first : Nat)
    (channels : List FanChannel) (h : ∀ c ∈ channels, P c) (p : Plant σ) :
    stepChannels? step? first channels p = some (stepChannels step first channels p) := by
  induction channels generalizing first p with
  | nil => rfl
  | cons c rest ih =>
    obtain ⟨hc, hrest⟩ := List.forall_mem_cons.1 h
    simp only [stepChannels?, stepChannels, same _ c p hc, Option.bind_eq_bind, Option.bind_some,
      ih (first + 1) hrest]
    rfl

variable [Board σ]

def measured? (b : FanBank) (fan : FanId) (p : Plant σ) : Option Nat :=
  b.look? fan fun c => c.measured? b.config (p.tach fan).period

def demand? (b : FanBank) (fan : FanId) (percent : Nat) (p : Plant σ) :
    Option (Except Halt FanBank) :=
  match b.channel? fan with
  | none => some (.ok b)
  | some c => do
    let actual ← b.measured? fan p
    let followed ← c.follow? actual percent
    return followed.map (b.setChannel fan)

def demandOf? (percent : Nat) (p : Plant σ) : List FanId → FanBank → Option (Except Halt FanBank)
  | [], b => some (.ok b)
  | fan :: rest, b => do
    match ← b.demand? fan percent p with
    | .error halt => return .error halt
    | .ok b => demandOf? percent p rest b

def applyDemand? (b : FanBank) (percent : Nat) (p : Plant σ) : Option (Except Halt FanBank) :=
  demandOf? percent p b.fans b

def controlChannel? (config : FanConfig) (fan : FanId) (time : Instant) (c : FanChannel)
    (p : Plant σ) : Option (FanChannel × Plant σ) := do
  let actual ← c.measured? config (p.tach fan).period
  if c.uncontrolled then return (c, p)
  else
    let error ← c.speedError? actual
    let step ← FanChannel.correction? (min config.band maxSigned) error c.duty
    return carryOut fan time actual error c p step

def controlTick? (b : FanBank) (powered : Bool) (time : Instant) (p : Plant σ) :
    Option (FanBank × Plant σ) :=
  if powered then do
    let done ← stepChannels? (fun fan c p => controlChannel? b.config fan time c p) 0 b.channels p
    return ({ b with channels := done.1 }, done.2)
  else some (b, p)

theorem InRange.measured?_eq (h : b.InRange) (fan : FanId) (p : Plant σ) :
    b.measured? fan p = some (b.measured fan p) :=
  look?_eq fun c _ => c.measured?_of_roomy h.roomy _

theorem InRange.demand?_eq (h : b.InRange) (fan : FanId) (percent : Nat) (p : Plant σ) :
    b.demand? fan percent p = some (b.demand fan percent p) := by
  cases hc : b.channel? fan with
  | none => simp only [demand?, FanBank.demand, hc]
  | some c =>
    simp only [demand?, FanBank.demand, hc, h.measured?_eq, Option.bind_eq_bind, Option.bind_some,
      (h.channel hc).follow?_eq (h.measured_le fan p)]
    rfl

theorem InRange.demandOf?_eq (h : b.InRange) (percent : Nat) (p : Plant σ) (fans : List FanId) :
    demandOf? percent p fans b = some (FanBank.demandOf percent p fans b) := by
  induction fans generalizing b with
  | nil => rfl
  | cons fan rest ih =>
    obtain ⟨b', asked, inside⟩ := h.demand fan percent p
    simp only [demandOf?, FanBank.demandOf, h.demand?_eq, asked]
    exact ih inside

theorem controlChannel?_eq {config : FanConfig} (roomy : config.Roomy) (fan : FanId)
    (time : Instant) {c : FanChannel} (h : c.InRange config.band) (p : Plant σ) :
    controlChannel? config fan time c p = some (controlChannel config fan time c p) := by
  simp only [controlChannel?, Option.bind_eq_bind]
  rw [c.measured?_of_roomy roomy, Option.bind_some]
  split
  · rename_i rests
    simp only [controlChannel, rests, ↓reduceIte]
    rfl
  · rename_i controlled
    rw [c.speedError?_eq, if_pos (h.errorFits roomy _), Option.bind_some,
      FanChannel.correction?_eq (Nat.min_le_right _ _), Option.bind_some,
      controlChannel_eq config fan time c p controlled]
    rfl

theorem InRange.controlTick?_eq (h : b.InRange) (powered : Bool) (time : Instant) (p : Plant σ) :
    b.controlTick? powered time p = some (b.controlTick powered time p) := by
  simp only [controlTick?, FanBank.controlTick]
  split
  · rw [stepChannels?_eq (fun fan c p hc => controlChannel?_eq h.roomy fan time hc p) 0 b.channels
      h.channels p]
    rfl
  · rfl

end FanBank

namespace FanOp

variable {σ : Type} [Board σ]

def onWords? (op : FanOp σ) (b : FanBank) (p : Plant (Watched σ)) :
    Option (Except Halt (FanBank × Plant (Watched σ))) :=
  match op with
  | demand fan percent => (b.demand? fan percent p).map fun asked => asked.map fun b => (b, p)
  | demandAll percent => (b.applyDemand? percent p).map fun asked => asked.map fun b => (b, p)
  | control powered time => (b.controlTick? powered time p).map .ok
  | op => some (op.apply b p)

theorem apply_fits (op : FanOp σ) {b : FanBank} (h : b.InRange) (p : Plant (Watched σ)) :
    ∃ b' p', op.onWords? b p = some (.ok (b', p')) ∧ op.apply b p = .ok (b', p') ∧ b'.InRange := by
  cases op with
  | enable fan on => exact ⟨_, _, rfl, rfl, h.setEnabled fan on p⟩
  | mode fan mode => exact ⟨_, _, rfl, rfl, h.setMode fan mode⟩
  | follow fan follows => exact ⟨_, _, rfl, rfl, h.setFollowsDemand fan follows⟩
  | duty fan percent => exact ⟨_, _, rfl, rfl, h.setDuty fan percent p⟩
  | target fan rpm =>
    obtain ⟨b', aimed, inside⟩ := h.setTarget fan rpm
    simp only [onWords?, apply, aimed]
    exact ⟨b', p, rfl, rfl, inside⟩
  | demand fan percent =>
    obtain ⟨b', asked, inside⟩ := h.demand fan percent p
    simp only [onWords?, apply, h.demand?_eq, asked]
    exact ⟨b', p, rfl, rfl, inside⟩
  | demandAll percent =>
    obtain ⟨b', asked, inside⟩ := h.demandOf percent p b.fans
    simp only [onWords?, apply, FanBank.applyDemand?, FanBank.applyDemand, h.demandOf?_eq, asked]
    exact ⟨b', p, rfl, rfl, inside⟩
  | loadLimits store time => exact ⟨_, _, rfl, rfl, h.loadLimits store time p.journal⟩
  | health powered time => exact ⟨_, _, rfl, rfl, h.healthTick powered time p⟩
  | control powered time =>
    simp only [onWords?, apply, h.controlTick?_eq, Option.map_some]
    exact ⟨_, _, rfl, rfl, h.controlTick powered time p⟩
  | outside board journal => exact ⟨_, _, rfl, rfl, h⟩

end FanOp

end BoardWarden
