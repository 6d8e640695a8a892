import BoardWarden.Fan.Bank

set_option autoImplicit false

namespace BoardWarden

open Settings (FanLimits Store)

theorem Settings.FanLimits.bounds {l : FanLimits} (valid : l.valid = true) :
    l.min < l.max ∧ l.start ≤ l.max ∧ l.max ≤ 65535 := by
  simp only [FanLimits.valid, Bool.and_eq_true, decide_eq_true_eq] at valid
  exact ⟨valid.1.1, valid.1.2, valid.2⟩

namespace FanChannel

theorem setTarget_ok (c : FanChannel) (rpm : Nat) (order : c.limits.min ≤ c.limits.max) :
    ∃ c', c.setTarget rpm = .ok c' := by
  simp only [setTarget, order, ↓reduceIte]
  split <;> exact ⟨_, rfl⟩

theorem setTarget_limits (c c' : FanChannel) (rpm : Nat) (h : c.setTarget rpm = .ok c') :
    c'.limits = c.limits := by
  simp only [setTarget] at h
  split at h
  · cases h
    rfl
  · split at h
    · cases h
      rfl
    · cases h

theorem follow_ok (c : FanChannel) (actual percent : Nat) (order : c.limits.min ≤ c.limits.max) :
    ∃ c', c.follow actual percent = .ok c' := by
  simp only [follow]
  split
  · exact c.setTarget_ok _ order
  · exact ⟨c, rfl⟩

theorem follow_limits (c c' : FanChannel) (actual percent : Nat)
    (h : c.follow actual percent = .ok c') : c'.limits = c.limits := by
  simp only [follow] at h
  split at h
  · exact c.setTarget_limits c' _ h
  · cases h
    rfl

end FanChannel

namespace FanBank

def limits (b : FanBank) : List FanLimits := b.channels.map FanChannel.limits

def InOrder (b : FanBank) : Prop := ∀ l ∈ b.limits, l.min ≤ l.max

theorem InOrder.of_limits {b b' : FanBank} (h : b.InOrder) (same : b'.limits = b.limits) :
    b'.InOrder := by
  simp only [InOrder, same]
  exact h

theorem InOrder.channel {b : FanBank} (h : b.InOrder) {fan : FanId} {c : FanChannel}
    (hc : b.channel? fan = some c) : c.limits.min ≤ c.limits.max :=
  h c.limits (List.mem_map_of_mem (List.mem_of_getElem? hc))

theorem ofCount_inOrder (count : Nat) (l : FanLimits) (config : FanConfig)
    (order : l.min ≤ l.max) : (ofCount count l config).InOrder := by
  intro l' hl
  have hl' : l' ∈ List.replicate (min count limit) l := by
    simpa [limits, ofCount, FanChannel.fresh] using hl
  rw [(List.mem_replicate.1 hl').2]
  exact order

theorem setChannel_limits (b : FanBank) (fan : FanId) (c c' : FanChannel)
    (hc : b.channel? fan = some c) (kept : c'.limits = c.limits) :
    (b.setChannel fan c').limits = b.limits := by
  obtain ⟨hlt, heq⟩ := List.getElem?_eq_some_iff.1 hc
  have hlt' : fan.index < (b.channels.map FanChannel.limits).length := by simpa using hlt
  have held : (b.channels.map FanChannel.limits)[fan.index] = c.limits := by
    rw [List.getElem_map, heq]
  simp only [limits, setChannel, List.map_set, kept]
  rw [← held, List.set_getElem_self]

theorem modify_limits (b : FanBank) (fan : FanId) (f : FanChannel → FanChannel)
    (kept : ∀ c, (f c).limits = c.limits) : (b.modify fan f).limits = b.limits := by
  apply List.ext_getElem?
  intro i
  rw [limits, limits, List.getElem?_map, List.getElem?_map]
  simp only [modify, List.getElem?_modify]
  cases b.channels[i]? with
  | none => rfl
  | some c =>
    by_cases hi : fan.index = i
    · simp [hi, kept]
    · simp [hi]

theorem loadChannels_all {P : FanChannel → Prop}
    (kept : ∀ c limits, limits.valid = true → P c → P { c with limits }) (store : Store)
    (time : Instant) (first : Nat) (channels : List FanChannel) (j : Journal)
    (h : ∀ c ∈ channels, P c) : ∀ c ∈ (loadChannels store time first channels j).1, P c := by
  induction channels generalizing first j with
  | nil => exact h
  | cons c rest ih =>
    obtain ⟨hc, hrest⟩ := List.forall_mem_cons.1 h
    simp only [loadChannels]
    split
    · exact List.forall_mem_cons.2 ⟨hc, ih _ _ hrest⟩
    · split
      · rename_i valid
        exact List.forall_mem_cons.2 ⟨kept c _ valid hc, ih _ _ hrest⟩
      · exact List.forall_mem_cons.2 ⟨hc, ih _ _ hrest⟩
    · exact List.forall_mem_cons.2 ⟨hc, ih _ _ hrest⟩

theorem loadChannels_inOrder (store : Store) (time : Instant) (first : Nat)
    (channels : List FanChannel) (j : Journal)
    (h : ∀ c ∈ channels, c.limits.min ≤ c.limits.max) :
    ∀ c ∈ (loadChannels store time first channels j).1, c.limits.min ≤ c.limits.max :=
  loadChannels_all (fun _ _ valid _ => Nat.le_of_lt (FanLimits.bounds valid).1) store time first
    channels j h

theorem loadLimits_inOrder (b : FanBank) (store : Store) (time : Instant) (j : Journal)
    (h : b.InOrder) : (b.loadLimits store time j).1.InOrder := by
  have channels : ∀ c ∈ b.channels, c.limits.min ≤ c.limits.max :=
    fun c hc => h c.limits (List.mem_map_of_mem hc)
  intro l hl
  obtain ⟨c, hc, rfl⟩ := List.mem_map.1 hl
  exact loadChannels_inOrder store time 0 b.channels j channels c hc

theorem setTarget_ok (b : FanBank) (fan : FanId) (rpm : Nat) (order : b.InOrder) :
    ∃ b', b.setTarget fan rpm = .ok b' ∧ b'.limits = b.limits := by
  simp only [setTarget]
  split
  · exact ⟨b, rfl, rfl⟩
  · rename_i c hc
    obtain ⟨c', aimed⟩ := c.setTarget_ok rpm (order.channel hc)
    rw [aimed]
    exact ⟨_, rfl, b.setChannel_limits fan c c' hc (c.setTarget_limits c' rpm aimed)⟩

variable {σ : Type} [Board σ]

theorem setEnabled_limits (b : FanBank) (fan : FanId) (on : Bool) (p : Plant σ) :
    (b.setEnabled fan on p).1.limits = b.limits := by
  simp only [setEnabled]
  split
  · rfl
  · rename_i c hc
    split <;> exact b.setChannel_limits fan c _ hc rfl

theorem setDuty_limits (b : FanBank) (fan : FanId) (percent : Nat) (p : Plant σ) :
    (b.setDuty fan percent p).1.limits = b.limits := by
  simp only [setDuty]
  split
  · rfl
  · rename_i c hc
    exact b.setChannel_limits fan c _ hc rfl

theorem demand_ok (b : FanBank) (fan : FanId) (percent : Nat) (p : Plant σ) (order : b.InOrder) :
    ∃ b', b.demand fan percent p = .ok b' ∧ b'.limits = b.limits := by
  simp only [demand]
  split
  · exact ⟨b, rfl, rfl⟩
  · rename_i c hc
    obtain ⟨c', followed⟩ := c.follow_ok (b.measured fan p) percent (order.channel hc)
    rw [followed]
    exact ⟨_, rfl, b.setChannel_limits fan c c' hc (c.follow_limits c' _ _ followed)⟩

theorem demandOf_ok (percent : Nat) (p : Plant σ) (fans : List FanId) (b : FanBank)
    (order : b.InOrder) : ∃ b', demandOf percent p fans b = .ok b' ∧ b'.limits = b.limits := by
  induction fans generalizing b with
  | nil => exact ⟨b, rfl, rfl⟩
  | cons fan rest ih =>
    obtain ⟨b', asked, same⟩ := b.demand_ok fan percent p order
    obtain ⟨b'', others, same'⟩ := ih b' (order.of_limits same)
    refine ⟨b'', ?_, same'.trans same⟩
    simp only [demandOf, asked]
    exact others

theorem applyDemand_ok (b : FanBank) (percent : Nat) (p : Plant σ) (order : b.InOrder) :
    ∃ b', b.applyDemand percent p = .ok b' ∧ b'.limits = b.limits :=
  demandOf_ok percent p b.fans b order

theorem checkChannel_limits (fan : FanId) (powered : Bool) (time : Instant) (c : FanChannel)
    (p : Plant σ) : (checkChannel fan powered time c p).1.limits = c.limits := by
  simp only [checkChannel]
  repeat' split
  all_goals rfl

theorem controlChannel_limits (config : FanConfig) (fan : FanId) (time : Instant) (c : FanChannel)
    (p : Plant σ) : (controlChannel config fan time c p).1.limits = c.limits := by
  simp only [controlChannel]
  repeat' split
  all_goals rfl

omit [Board σ] in
theorem stepChannels_limits (step : FanId → FanChannel → Plant σ → FanChannel × Plant σ)
    (kept : ∀ fan c p, (step fan c p).1.limits = c.limits) (first : Nat)
    (channels : List FanChannel) (p : Plant σ) :
    (stepChannels step first channels p).1.map FanChannel.limits =
      channels.map FanChannel.limits := by
  induction channels generalizing first p with
  | nil => rfl
  | cons c rest ih => simp only [stepChannels, List.map_cons, kept, ih]

theorem healthTick_limits (b : FanBank) (powered : Bool) (time : Instant) (p : Plant σ) :
    (b.healthTick powered time p).1.limits = b.limits :=
  stepChannels_limits _ (fun fan c p => checkChannel_limits fan powered time c p) 0 b.channels p

theorem controlTick_limits (b : FanBank) (powered : Bool) (time : Instant) (p : Plant σ) :
    (b.controlTick powered time p).1.limits = b.limits := by
  simp only [controlTick]
  split
  · exact stepChannels_limits _ (fun fan c p => controlChannel_limits b.config fan time c p) 0
      b.channels p
  · rfl

end FanBank

end BoardWarden
