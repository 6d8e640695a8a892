import BoardWarden.Proofs.Controller.Fields

set_option autoImplicit false

namespace BoardWarden

namespace FanBank

def All (P : FanChannel → Prop) (b : FanBank) : Prop := ∀ c ∈ b.channels, P c

instance (P : FanChannel → Prop) [DecidablePred P] (b : FanBank) : Decidable (b.All P) :=
  inferInstanceAs (Decidable (∀ c ∈ b.channels, P c))

theorem all_iff (P : FanChannel → Prop) (b : FanBank) :
    b.All P ↔ ∀ fan c, b.channel? fan = some c → P c := by
  constructor
  · exact fun h fan c hc => h c (List.mem_of_getElem? hc)
  · intro h c hc
    obtain ⟨i, hi⟩ := List.mem_iff_getElem?.1 hc
    exact h ⟨i⟩ c hi

theorem mem_fans (b : FanBank) (fan : FanId) (c : FanChannel) (h : b.channel? fan = some c) :
    fan ∈ b.fans := by
  obtain ⟨hlt, _⟩ := List.getElem?_eq_some_iff.1 h
  exact List.mem_map.2 ⟨fan.index, List.mem_range.2 hlt, rfl⟩

theorem index_ne {fan other : FanId} (apart : fan ≠ other) : fan.index ≠ other.index := by
  intro same
  cases fan
  cases other
  exact apart (congrArg FanId.mk same)

theorem channel?_setChannel (b : FanBank) (fan other : FanId) (c : FanChannel) :
    (b.setChannel fan c).channel? other =
      if fan = other then (b.channel? other).map fun _ => c else b.channel? other := by
  simp only [channel?, setChannel, List.getElem?_set]
  by_cases same : fan = other
  · subst same
    by_cases hlt : fan.index < b.channels.length
    · simp [hlt]
    · simp [hlt]
  · simp [same, index_ne same]

theorem channel?_modify (b : FanBank) (fan other : FanId) (f : FanChannel → FanChannel) :
    (b.modify fan f).channel? other =
      if fan = other then (b.channel? other).map f else b.channel? other := by
  simp only [channel?, modify, List.getElem?_modify]
  by_cases same : fan = other
  · subst same
    simp
  · simp [same, index_ne same]

theorem All.setChannel {P : FanChannel → Prop} {b : FanBank} (h : b.All P) (fan : FanId)
    (c c' : FanChannel) (hc : b.channel? fan = some c) (kept : P c → P c') :
    (b.setChannel fan c').All P := by
  intro d hd
  rcases List.mem_or_eq_of_mem_set hd with old | rfl
  · exact h d old
  · exact kept (h c (List.mem_of_getElem? hc))

theorem All.modify {P : FanChannel → Prop} {b : FanBank} (h : b.All P) (fan : FanId)
    (f : FanChannel → FanChannel) (kept : ∀ c, P c → P (f c)) : (b.modify fan f).All P := by
  rw [all_iff] at h ⊢
  intro other c hc
  rw [channel?_modify] at hc
  split at hc
  · obtain ⟨old, held, rfl⟩ := Option.map_eq_some_iff.1 hc
    exact kept old (h other old held)
  · exact h other c hc

variable {σ : Type} [Board σ]

def switched (on : Bool) (c : FanChannel) : FanChannel :=
  if on then { c with enabled := true, status := .changing } else { c with enabled := false, duty := 0 }

theorem channel?_setEnabled (b : FanBank) (fan other : FanId) (on : Bool) (p : Plant σ) :
    (b.setEnabled fan on p).1.channel? other =
      if fan = other then (b.channel? other).map (switched on) else b.channel? other := by
  simp only [setEnabled]
  split
  · rename_i missing
    split
    · rename_i same
      rw [← same, missing]
      rfl
    · rfl
  · rename_i c hc
    cases on <;> simp only [Bool.false_eq_true, ↓reduceIte, channel?_setChannel]
    all_goals
      split
      · rename_i same
        rw [← same, hc]
        rfl
      · rfl

theorem channel?_setDuty (b : FanBank) (fan other : FanId) (percent : Nat) (p : Plant σ) :
    (b.setDuty fan percent p).1.channel? other =
      if fan = other then (b.channel? other).map fun c => { c with duty := min percent 100 }
      else b.channel? other := by
  simp only [setDuty]
  split
  · rename_i missing
    split
    · rename_i same
      rw [← same, missing]
      rfl
    · rfl
  · rename_i c hc
    rw [channel?_setChannel]
    split
    · rename_i same
      rw [← same, hc]
      rfl
    · rfl

end FanBank

def FanChannel.Overridden (duty : Nat) (c : FanChannel) : Prop :=
  c.enabled = true ∧ c.mode = .manual ∧ c.duty = min duty 100

def FanChannel.Off (c : FanChannel) : Prop := c.enabled = false ∧ c.duty = 0

structure FanChannel.Lasting (P : FanChannel → Prop) : Prop where
  follow : ∀ c c' actual percent, c.follow actual percent = .ok c' → P c → P c'
  check : ∀ {σ : Type} [Board σ] fan powered time c (p : Plant σ), P c →
    P (FanBank.checkChannel fan powered time c p).1
  control : ∀ {σ : Type} [Board σ] config fan time c (p : Plant σ), P c →
    P (FanBank.controlChannel config fan time c p).1

namespace FanChannel

theorem follow_keeps (c c' : FanChannel) (actual percent : Nat)
    (h : c.follow actual percent = .ok c') :
    c'.enabled = c.enabled ∧ c'.mode = c.mode ∧ c'.duty = c.duty := by
  simp only [follow, setTarget] at h
  repeat' split at h
  all_goals
    cases h
    try exact ⟨rfl, rfl, rfl⟩

variable {σ : Type} [Board σ]

theorem check_keeps (fan : FanId) (powered : Bool) (time : Instant) (c : FanChannel) (p : Plant σ) :
    let c' := (FanBank.checkChannel fan powered time c p).1
    c'.enabled = c.enabled ∧ c'.mode = c.mode ∧ c'.duty = c.duty := by
  simp only [FanBank.checkChannel]
  repeat' split
  all_goals exact ⟨rfl, rfl, rfl⟩

theorem overridden_lasting (duty : Nat) : Lasting (Overridden duty) where
  follow c c' actual percent h := by
    obtain ⟨enabled, mode, same⟩ := c.follow_keeps c' actual percent h
    simp only [Overridden, enabled, mode, same]
    exact id
  check fan powered time c p h := by
    obtain ⟨enabled, mode, same⟩ := check_keeps fan powered time c p
    simp only [Overridden, enabled, mode, same]
    exact h
  control config fan time c p h := by
    have manual : c.uncontrolled = true := by simp [uncontrolled, h.2.1]
    simp only [FanBank.controlChannel, manual, ↓reduceIte]
    exact h

theorem off_lasting : Lasting Off where
  follow c c' actual percent h := by
    obtain ⟨enabled, _, same⟩ := c.follow_keeps c' actual percent h
    simp only [Off, enabled, same]
    exact id
  check fan powered time c p h := by
    obtain ⟨enabled, _, same⟩ := check_keeps fan powered time c p
    simp only [Off, enabled, same]
    exact h
  control config fan time c p h := by
    have still : c.uncontrolled = true := by simp [uncontrolled, h.1, h.2]
    simp only [FanBank.controlChannel, still, ↓reduceIte]
    exact h

end FanChannel

namespace FanBank

variable {P : FanChannel → Prop}

variable {σ : Type} [Board σ]

theorem All.demandOf (lasting : FanChannel.Lasting P) (percent : Nat) (p : Plant σ)
    (fans : List FanId) {b b' : FanBank} (h : b.All P)
    (asked : FanBank.demandOf percent p fans b = .ok b') : b'.All P := by
  induction fans generalizing b with
  | nil =>
    cases asked
    exact h
  | cons fan rest ih =>
    simp only [FanBank.demandOf] at asked
    split at asked
    · cases asked
    · rename_i d one
      refine ih ?_ asked
      simp only [demand] at one
      split at one
      · cases one
        exact h
      · rename_i c hc
        cases followed : c.follow (b.measured fan p) percent with
        | error halt =>
          rw [followed] at one
          cases one
        | ok c' =>
          rw [followed] at one
          cases one
          exact h.setChannel fan c c' hc (lasting.follow c c' _ _ followed)

omit [Board σ] in
theorem All.stepChannels (step : FanId → FanChannel → Plant σ → FanChannel × Plant σ)
    (kept : ∀ fan c p, P c → P (step fan c p).1) (first : Nat) (channels : List FanChannel)
    (p : Plant σ) (h : ∀ c ∈ channels, P c) :
    ∀ c ∈ (FanBank.stepChannels step first channels p).1, P c := by
  induction channels generalizing first p with
  | nil => exact h
  | cons c rest ih =>
    obtain ⟨hc, hrest⟩ := List.forall_mem_cons.1 h
    exact List.forall_mem_cons.2 ⟨kept _ c p hc, ih _ _ hrest⟩

theorem All.healthTick (lasting : FanChannel.Lasting P) {b : FanBank} (h : b.All P)
    (powered : Bool) (time : Instant) (p : Plant σ) : (b.healthTick powered time p).1.All P :=
  All.stepChannels _ (fun fan c p => lasting.check fan powered time c p) 0 b.channels p h

theorem All.controlTick (lasting : FanChannel.Lasting P) {b : FanBank} (h : b.All P)
    (powered : Bool) (time : Instant) (p : Plant σ) : (b.controlTick powered time p).1.All P := by
  simp only [FanBank.controlTick]
  split
  · exact All.stepChannels _ (fun fan c p => lasting.control b.config fan time c p) 0 b.channels p h
  · exact h

end FanBank

namespace Controller

variable {σ : Type} [Board σ]

theorem setFans_channel? (on : Bool) (fans : List FanId) (b : FanBank) (p : Plant σ)
    (other : FanId) : (setFans on fans b p).1.channel? other =
      if other ∈ fans then (b.channel? other).map (FanBank.switched on) else b.channel? other := by
  induction fans generalizing b p with
  | nil => rfl
  | cons fan rest ih =>
    have again : ∀ c, FanBank.switched on (FanBank.switched on c) = FanBank.switched on c := by
      intro c
      cases on <;> rfl
    simp only [setFans]
    rw [ih, FanBank.channel?_setEnabled]
    by_cases same : fan = other
    · subst same
      cases b.channel? fan <;> simp [again]
    · simp [same, Ne.symm same]

def overridden (duty : Nat) (c : FanChannel) : FanChannel :=
  { c with enabled := true, mode := .manual, duty := min duty 100, status := .changing }

theorem overrideFans_channel? (duty : Nat) (fans : List FanId) (b : FanBank) (p : Plant σ)
    (other : FanId) : (overrideFans duty fans b p).1.channel? other =
      if other ∈ fans then (b.channel? other).map (overridden duty) else b.channel? other := by
  induction fans generalizing b p with
  | nil => rfl
  | cons fan rest ih =>
    simp only [overrideFans]
    rw [ih, FanBank.channel?_setDuty, FanBank.channel?_setEnabled, FanBank.setMode,
      FanBank.channel?_modify]
    by_cases same : fan = other
    · subst same
      cases b.channel? fan <;> simp [overridden, FanBank.switched]
    · simp [same, Ne.symm same]

theorem enableFans_off (c : Controller σ) : (c.enableFans false).fans.All FanChannel.Off := by
  rw [FanBank.all_iff]
  intro fan channel h
  change (setFans false c.fans.fans c.fans c.plant).1.channel? fan = some channel at h
  rw [setFans_channel?] at h
  split at h
  · obtain ⟨old, _, rfl⟩ := Option.map_eq_some_iff.1 h
    exact ⟨rfl, rfl⟩
  · rename_i out
    exact absurd (c.fans.mem_fans fan channel h) out

theorem overrideFans_all (duty : Nat) (b : FanBank) (p : Plant σ) :
    (overrideFans duty b.fans b p).1.All (FanChannel.Overridden duty) := by
  rw [FanBank.all_iff]
  intro fan channel h
  rw [overrideFans_channel?] at h
  split at h
  · obtain ⟨old, _, rfl⟩ := Option.map_eq_some_iff.1 h
    exact ⟨rfl, rfl, rfl⟩
  · rename_i out
    exact absurd (b.mem_fans fan channel h) out

end Controller

end BoardWarden
