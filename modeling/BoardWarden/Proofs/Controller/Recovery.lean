import BoardWarden.Proofs.Controller.Outlook
import BoardWarden.Proofs.Controller.Shutdown

set_option autoImplicit false

namespace BoardWarden

open Settings (Store)

def FanChannel.Governed (c : FanChannel) : Prop := c.mode = .rpm

instance : DecidablePred FanChannel.Governed := fun c =>
  inferInstanceAs (Decidable (c.mode = .rpm))

theorem FanChannel.governed_lasting : Lasting Governed where
  follow c c' actual percent h := by
    simp only [Governed, (c.follow_keeps c' actual percent h).2.1]
    exact id
  check fan powered time c p h := by
    simp only [Governed, (check_keeps fan powered time c p).2.1]
    exact h
  control config fan time c p h := by
    simp only [FanBank.controlChannel]
    repeat' split
    all_goals exact h

namespace FanBank

variable {P : FanChannel → Prop}

variable {σ : Type} [Board σ]

theorem All.setEnabled {b : FanBank} (h : b.All P) (kept : ∀ on c, P c → P (switched on c))
    (fan : FanId) (on : Bool) (p : Plant σ) : (b.setEnabled fan on p).1.All P := by
  rw [all_iff] at h ⊢
  intro other c hc
  rw [channel?_setEnabled] at hc
  split at hc
  · obtain ⟨old, held, rfl⟩ := Option.map_eq_some_iff.1 hc
    exact kept on old (h other old held)
  · exact h other c hc

end FanBank

namespace Controller

variable {σ : Type} [Board σ]

/-- Nothing of a thermal shutdown is left: neither action is pending, and no fan is set by hand. -/
structure Clear (c : Controller σ) : Prop where
  force : c.forcePending = false
  override : c.overridePending = false
  fans : c.fans.All FanChannel.Governed

/-- The step from `c` to `c'` leaves no more of a thermal shutdown than it found. Only an override
that was pending sets fans by hand. -/
structure Leaves (c c' : Controller σ) : Prop where
  force : c'.forcePending = true → c.forcePending = true
  override : c'.overridePending = true → c.overridePending = true
  fans : c.fans.All FanChannel.Governed →
    c'.fans.All FanChannel.Governed ∨ c.overridePending = true

namespace Leaves

variable {c d e : Controller σ}

omit [Board σ] in
theorem of_agenda (agenda : d.agenda = c.agenda)
    (fans : c.fans.All FanChannel.Governed → d.fans.All FanChannel.Governed) : Leaves c d where
  force h := by rwa [forcePending, agenda] at h
  override h := by rwa [overridePending, agenda] at h
  fans h := .inl (fans h)

omit [Board σ] in
theorem refl (c : Controller σ) : Leaves c c := of_agenda rfl id

omit [Board σ] in
theorem trans (h : Leaves c d) (h' : Leaves d e) : Leaves c e where
  force pending := h.force (h'.force pending)
  override pending := h.override (h'.override pending)
  fans governed := by
    rcases h.fans governed with governed' | pending
    · exact (h'.fans governed').imp_right h.override
    · exact .inr pending

omit [Board σ] in
theorem clear (h : Leaves c d) (clear : c.Clear) : d.Clear where
  force := Bool.eq_false_iff.2 fun pending => by simpa [clear.force] using h.force pending
  override := Bool.eq_false_iff.2 fun pending => by simpa [clear.override] using h.override pending
  fans := by
    rcases h.fans clear.fans with governed | pending
    · exact governed
    · rw [clear.override] at pending
      cases pending

end Leaves

omit [Board σ] in
theorem Asks.leaves {c c' : Controller σ} (asks : Asks c c') : Leaves c c' where
  force h := (asks.pending _ (.inl rfl)).symm.trans h
  override h := (asks.pending _ (.inr rfl)).symm.trans h
  fans h := .inl (by rwa [asks.fans])

omit [Board σ] in
theorem switched_governed (on : Bool) (channel : FanChannel) (h : channel.Governed) :
    (FanBank.switched on channel).Governed := by
  cases on <;> exact h

theorem setFans_governed (on : Bool) (fans : List FanId) (b : FanBank) (p : Plant σ)
    (h : b.All FanChannel.Governed) : (setFans on fans b p).1.All FanChannel.Governed := by
  induction fans generalizing b p with
  | nil => exact h
  | cons fan rest ih => exact ih _ _ (h.setEnabled switched_governed fan on p)

theorem stepPower_leaves (c : Controller σ) : Leaves c c.stepPower := by
  obtain ⟨_, _, _, _, agenda, fans⟩ := c.serviceFaults_fields
  have worked : Leaves c c.work := .of_agenda agenda fun h => by
    rwa [show c.work.fans = c.fans from fans]
  have pulled : Leaves c.work c.work.pullThermalForward := by
    have kept : c.overridePending = c.work.overridePending := by
      rw [overridePending, overridePending, show c.work.agenda = c.agenda from agenda]
    refine ⟨fun h => ?_, fun h => ?_, fun h => .inl ?_⟩
    · rwa [pullThermalForward_pending] at h
    · rwa [pulled_pending, kept] at h
    · rwa [c.work.pullThermalForward_fields.2.2.2]
  have switched : Leaves c.work.pullThermalForward c.stepPower := by
    rw [stepPower_work]
    refine .of_agenda (switchFans_fields _ _).2.2.2 fun h => ?_
    simp only [switchFans, disableFans]
    repeat' split
    all_goals first
      | exact h
      | exact setFans_governed _ _ _ _ h
  exact (worked.trans pulled).trans switched

theorem takeExpired_leaves (c : Controller σ) (action : DeferredAction) (agenda : Agenda)
    (taken : c.agenda.takeExpired c.now = some (action, agenda)) :
    Leaves c ({ c with agenda }.runAction action) := by
  obtain ⟨rfl, deadline, armed, _⟩ := Agenda.takeExpired_spec _ _ _ _ taken
  have dropped : ∀ other, (c.agenda.set action none).isPending other = true →
      c.agenda.isPending other = true := by
    intro other pending
    by_cases same : other = action
    · subst same
      simp [Agenda.isPending] at pending
    · rwa [Agenda.isPending_set_of_ne _ same] at pending
  let d : Controller σ := { c with agenda := c.agenda.set action none }
  refine ⟨fun h => dropped _ ?_, fun h => dropped _ ?_, fun governed => ?_⟩
  · rwa [forcePending, runAction_agenda] at h
  · rwa [overridePending, runAction_agenda] at h
  · by_cases override : action = .thermalFanOverride
    · subst override
      exact .inr (by rw [overridePending, Agenda.isPending, armed]; rfl)
    · exact .inl ((runAction_spares d ⟨0⟩ action override).fans _ FanChannel.governed_lasting
        governed)

theorem runDue_leaves (count : Nat) (c : Controller σ) : Leaves c (runDue count c).2 := by
  induction count generalizing c with
  | zero => exact .refl c
  | succ count ih =>
    simp only [runDue]
    split
    · exact .refl c
    · rename_i action agenda taken
      exact (takeExpired_leaves c action agenda taken).trans (ih _)

theorem init_leaves (c : Controller σ) (store : Store) (reset : ResetFlags) :
    Leaves c (c.init store reset) := by
  refine .of_agenda (c.init_fields store reset).1 fun h => ?_
  obtain ⟨j, loaded⟩ := loadSettings_fans { c with rig := c.rig.adoptLive } store c.now
  have governed : (c.fans.loadLimits store c.now j).1.All FanChannel.Governed :=
    FanBank.loadChannels_all (fun _ _ _ h => h) store c.now 0 c.fans.channels j h
  rw [← loaded] at governed
  simp only [init]
  split
  · exact setFans_governed _ _ _ _ governed
  · exact governed

def Input.keepsModes : Input σ → Bool
  | .fan _ (.mode _) => false
  | _ => true

theorem command_leaves (c c' : Controller σ) (fan : FanId) (command : FanCommand)
    (keeps : (Input.fan fan command : Input σ).keepsModes = true)
    (h : c.command fan command = .ok c') : Leaves c c' := by
  refine .of_agenda (c.command_fields fan command h).2.2.2.1 fun governed => ?_
  cases command with
  | mode => cases keeps
  | enable on =>
    cases h
    exact governed.setEnabled switched_governed fan on c.plant
  | duty percent =>
    cases h
    simp only [FanBank.setDuty]
    split
    · exact governed
    · rename_i channel found
      exact governed.setChannel fan channel _ found id
  | follow follows =>
    cases h
    exact governed.modify fan _ fun _ => id
  | target rpm =>
    simp only [Controller.command, FanBank.setTarget] at h
    split at h
    · cases h
      exact governed
    · rename_i channel found
      cases aimed : channel.setTarget rpm with
      | error halt =>
        rw [aimed] at h
        cases h
      | ok channel' =>
        rw [aimed] at h
        cases h
        refine governed.setChannel fan channel channel' found fun same => ?_
        simp only [FanChannel.setTarget] at aimed
        repeat' split at aimed
        all_goals
          cases aimed
          try exact same

omit [Board σ] in
theorem releaseFans_channel? (fans : List FanId) (b : FanBank) (other : FanId) :
    (releaseFans fans b).channel? other =
      if other ∈ fans then (b.channel? other).map fun c => { c with mode := .rpm }
      else b.channel? other := by
  induction fans generalizing b with
  | nil => rfl
  | cons fan rest ih =>
    simp only [releaseFans]
    rw [ih, FanBank.setMode, FanBank.channel?_modify]
    by_cases same : fan = other
    · subst same
      cases b.channel? fan <;> simp
    · simp [same, Ne.symm same]

omit [Board σ] in
theorem releaseFans_governed (b : FanBank) : (releaseFans b.fans b).All FanChannel.Governed := by
  rw [FanBank.all_iff]
  intro fan channel h
  rw [releaseFans_channel?] at h
  split at h
  · obtain ⟨old, _, rfl⟩ := Option.map_eq_some_iff.1 h
    rfl
  · rename_i out
    exact absurd (b.mem_fans fan channel h) out

/-- A recovery ends the shutdown and gives every fan back, and does not touch the agenda. -/
theorem tickSecond_recovers (c c' : Controller σ) (tick : CoolingTick)
    (h : c.tickSecond = .ok (tick, c')) (recovers : tick.recovery.isSome) :
    c'.cooling.inShutdown = false ∧ c'.fans.All FanChannel.Governed ∧ c'.agenda = c.agenda := by
  obtain ⟨cooling, p, fans, delay, ticked, _, same⟩ := tickSecond_stages h
  let d : Controller σ := { c.withPlant p with cooling, fans }
  have ended : tick.critical = none ∧ cooling.inShutdown = false := by
    rcases Cooling.tick_cases _ _ _ _ _ _ _ ticked with
      ⟨_, none, _⟩ | ⟨calm, _, _, _, ended⟩ | ⟨_, none, _⟩
    · simp [none] at recovers
    · exact ⟨calm, ended⟩
    · simp [none] at recovers
  obtain ⟨recovery, recovered⟩ := Option.isSome_iff_exists.1 recovers
  have followed : (d.followed tick delay).fans = releaseFans fans.fans fans := by
    simp only [Controller.followed, Controller.followRecovery, ended.1, recovered]
    cases recovery <;> rfl
  have released : (d.followed tick delay).fans.All FanChannel.Governed := by
    rw [followed]
    exact releaseFans_governed fans
  refine ⟨?_, ?_, (c.tickSecond_calm c' tick h ended.1).1⟩
  · rw [same, (fansWorked_fields _ _).2.2.1, (followed_fields _ _ _).2.2.2]
    exact ended.2
  · rw [same]
    exact ((d.followed tick delay).fansWorked_spares ⟨0⟩ c.now).fans _ FanChannel.governed_lasting
      released

/-- Outside a shutdown a recovery has just been reported, or the last input left no more than it
found outside a shutdown. -/
theorem apply_leaves (c c' : Controller σ) (input : Input σ) (keeps : input.keepsModes = true)
    (applied : c.apply input = .ok c') (ended : c'.cooling.inShutdown = false) :
    (∃ tick, c.tickSecond = .ok (tick, c') ∧ tick.recovery.isSome) ∨
      (Leaves c c' ∧ c.cooling.inShutdown = false) := by
  have left : Leaves c c' → c'.cooling.inShutdown = c.cooling.inShutdown →
      (∃ tick, c.tickSecond = .ok (tick, c') ∧ tick.recovery.isSome) ∨
        (Leaves c c' ∧ c.cooling.inShutdown = false) :=
    fun leaves same => .inr ⟨leaves, same.symm.trans ended⟩
  cases input with
  | init store reset =>
    cases applied
    exact left (c.init_leaves store reset) (c.init_fields store reset).2.2.1
  | powerButton pressed time =>
    cases applied
    have asks := c.powerButtonChanged_asks pressed time
    exact left asks.leaves (by rw [asks.cooling])
  | resetButton pressed time =>
    cases applied
    have asks := c.resetButtonChanged_asks pressed time
    exact left asks.leaves (by rw [asks.cooling])
  | watchdog time =>
    cases applied
    have asks := c.watchdogExpired_asks time
    exact left asks.leaves (by rw [asks.cooling])
  | feedback | powerOn | shutDown | reset | wait | outside =>
    cases applied
    exact left (.of_agenda rfl id) rfl
  | faults =>
    cases applied
    obtain ⟨_, _, _, cooling, agenda, fans⟩ := c.serviceFaults_fields
    exact left (.of_agenda agenda fun h => by rwa [fans]) (by rw [cooling])
  | step =>
    cases applied
    exact left c.stepPower_leaves (by rw [stepPower_cooling])
  | poll =>
    cases applied
    exact left (runDue_leaves _ c) (congrArg Cooling.inShutdown (c.runDue_cooling _))
  | tick =>
    obtain ⟨tick, ticked⟩ := apply_tick applied
    cases recovery : tick.recovery with
    | some => exact .inl ⟨tick, ticked, by simp [recovery]⟩
    | none =>
      have calm : tick.critical = none := by
        cases critical : tick.critical with
        | none => rfl
        | some zone =>
          have begun := (c.tickSecond_critical c' tick ticked (by simp [critical])).2.2
          rw [ended] at begun
          cases begun
      obtain ⟨cooling, p, fans, delay, cooled, _, same⟩ := tickSecond_stages ticked
      have spares := tickSecond_silent ⟨0⟩ tick ticked calm recovery
      refine left (.of_agenda (c.tickSecond_calm c' tick ticked calm).1
        (spares.fans _ FanChannel.governed_lasting)) ?_
      rcases Cooling.tick_cases _ _ _ _ _ _ _ cooled with ⟨hot, _⟩ | ⟨_, some, _⟩ | ⟨_, _, kept⟩
      · simp [calm] at hot
      · simp [recovery] at some
      · rw [same, (fansWorked_fields _ _).2.2.1, (followed_fields _ _ _).2.2.2]
        exact kept
  | fan fan command =>
    have cooling := (c.command_fields fan command applied).2.2.1
    exact left (c.command_leaves c' fan command keeps applied) (by rw [cooling])

/-- The last shutdown was recovered from at `d`, with an action of it still pending, and since then
nothing was left but what was there. -/
structure LeftOver (start d d' c : Controller σ) : Prop where
  reached : Run (fun input _ => input.keepsModes = true) start d
  recovery : ∃ tick, d.tickSecond = .ok (tick, d') ∧ tick.recovery.isSome
  early : d.forcePending = true ∨ d.overridePending = true
  since : Run (fun input e => input.keepsModes = true ∧ e.cooling.inShutdown = false) d' c
  leaves : Leaves d' c

theorem run_clear {start c : Controller σ} (first : start.Clear)
    (run : Run (fun input _ => input.keepsModes = true) start c)
    (ended : c.cooling.inShutdown = false) :
    c.Clear ∨ ∃ d d', LeftOver start d d' c := by
  induction run with
  | start => exact .inl first
  | @next c c' input run applied keeps ih =>
    rcases c.apply_leaves c' input keeps applied ended with ⟨tick, ticked, recovers⟩ | ⟨leaves, calm⟩
    · obtain ⟨_, fans, agenda⟩ := c.tickSecond_recovers c' tick ticked recovers
      by_cases early : c.forcePending = true ∨ c.overridePending = true
      · exact .inr ⟨c, c', run, ⟨tick, ticked, recovers⟩, early, .start, .refl c'⟩
      · simp only [not_or, Bool.not_eq_true] at early
        refine .inl ⟨?_, ?_, fans⟩
        · rw [forcePending, agenda]
          exact early.1
        · rw [overridePending, agenda]
          exact early.2
    · rcases ih calm with clear | ⟨d, d', left⟩
      · exact .inl (leaves.clear clear)
      · exact .inr ⟨d, d', left.reached, left.recovery, left.early,
          .next input left.since applied ⟨keeps, ended⟩, left.leaves.trans leaves⟩

/-- Outside a thermal shutdown nothing of one is left, unless the last recovery came early. A
recovery is clean exactly if both actions were done before it. -/
theorem recovery_clears (layout : BoardLayout) (fanCount : Nat) (config : ControllerConfig)
    (board : σ) (c : Controller σ)
    (run : Run (fun input _ => input.keepsModes = true) (fresh layout fanCount config board) c) :
    (c.cooling.inShutdown = false →
        c.Clear ∨ ∃ d d', LeftOver (fresh layout fanCount config board) d d' c) ∧
      ∀ tick c', c.tickSecond = .ok (tick, c') → tick.recovery.isSome →
        c'.cooling.inShutdown = false ∧ c'.fans.All FanChannel.Governed ∧
          (c'.Clear ↔ c.forcePending = false ∧ c.overridePending = false) := by
  have first : (fresh layout fanCount config board).Clear := by
    refine ⟨rfl, rfl, fun channel held => ?_⟩
    rw [List.eq_of_mem_replicate held]
    rfl
  refine ⟨run_clear first run, fun tick c' ticked recovers => ?_⟩
  obtain ⟨ended, governed, agenda⟩ := c.tickSecond_recovers c' tick ticked recovers
  have force : c'.forcePending = c.forcePending := by rw [forcePending, agenda, forcePending]
  have override : c'.overridePending = c.overridePending := by
    rw [overridePending, agenda, overridePending]
  refine ⟨ended, governed, fun clear => ⟨?_, ?_⟩, fun done => ⟨?_, ?_, governed⟩⟩
  · rw [← force]
    exact clear.force
  · rw [← override]
    exact clear.override
  · rw [force]
    exact done.1
  · rw [override]
    exact done.2

def chill (b : Bench) : Bench := b.change { temperatures := [(⟨0⟩, .ok 313)] }

/-- A shutdown that runs its course while the AP is still in S0, and a recovery after it. -/
def lateCooling : List (Input Bench) :=
  hotStart ++ [.tick, .wait (Span.ofSeconds 3), .poll, .outside chill]

def earlyCooling : List (Input Bench) := hotStart ++ [.tick, .outside chill, .tick]

theorem carrier_recovers_clear :
    ∃ c tick c', Run (fun input _ => input.keepsModes = true) carrier c ∧
      c.cooling.inShutdown = true ∧ ¬ c.fans.All FanChannel.Governed ∧
      c.tickSecond = .ok (tick, c') ∧ tick.recovery = some .resumed ∧
      c'.cooling.inShutdown = false ∧ c'.Clear := by
  obtain ⟨c, reached, hot, ungoverned, force, override, ⟨tick, c'⟩, ticked, resumed⟩ :
      ∃ c, along (fun input _ => input.keepsModes) lateCooling carrier = some c ∧
        c.cooling.inShutdown = true ∧ ¬ c.fans.All FanChannel.Governed ∧ c.forcePending = false ∧
        c.overridePending = false ∧
        ∃ done, c.tickSecond = .ok done ∧ done.1.recovery = some .resumed := by
    decide +kernel
  have run := along_run (fun input _ => input.keepsModes) lateCooling (fun _ _ _ h => h) carrier
    carrier c .start reached
  have recovers : tick.recovery.isSome := Option.isSome_of_eq_some resumed
  obtain ⟨ended, _, clear⟩ := (recovery_clears Carrier.layout Carrier.fanCount
    ControllerConfig.builtIn Carrier.bench c run).2 tick c' ticked recovers
  exact ⟨c, tick, c', run, hot, ungoverned, ticked, resumed, ended, clear.2 ⟨force, override⟩⟩

/-- A recovery that comes before the actions of the shutdown leaves both pending. When they are due
the AP is forced down, and the fans are set by hand outside a thermal shutdown. -/
theorem carrier_recovers_early :
    ∃ c d, Run (fun input _ => input.keepsModes = true) carrier c ∧
      c.cooling.inShutdown = false ∧ c.forcePending = true ∧ c.overridePending = true ∧
      Run (fun input _ => input.keepsModes = true) c d ∧ d.cooling.inShutdown = false ∧
      d.forcing = true ∧ ¬ d.fans.All FanChannel.Governed := by
  obtain ⟨c, reached, calm, force, override, d, polled, calm', latch, ungoverned⟩ :
      ∃ c, along (fun input _ => input.keepsModes) earlyCooling carrier = some c ∧
        c.cooling.inShutdown = false ∧ c.forcePending = true ∧ c.overridePending = true ∧
        ∃ d, along (fun input _ => input.keepsModes) [.wait (Span.ofSeconds 3), .poll] c = some d ∧
          d.cooling.inShutdown = false ∧ d.forcing = true ∧ ¬ d.fans.All FanChannel.Governed := by
    decide +kernel
  have run := along_run (fun input _ => input.keepsModes) earlyCooling (fun _ _ _ h => h) carrier
    carrier c .start reached
  have run' := along_run (fun input _ => input.keepsModes) _ (fun _ _ _ h => h) c c d .start polled
  exact ⟨c, d, run, calm, force, override, run', calm', latch, ungoverned⟩

end Controller

end BoardWarden
