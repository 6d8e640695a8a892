import BoardWarden.Proofs.Bench.FanSupply
import BoardWarden.Proofs.Controller.Outlook
import BoardWarden.Proofs.Controller.Shutdown

set_option autoImplicit false

/-!
What becomes of the fan override after a critical temperature. An override that is still to come when
the primary rails are lowered outlasts the shutdown. One that has run by then is undone on the way
down, and nothing turns the fans on again.
-/

namespace BoardWarden.Controller

variable {σ : Type} [Board σ] {layout : BoardLayout} {config : ControllerConfig} {rail : RailId}
  {row : Rail} {good : σ → Prop} {c c' : Controller σ}

structure Lowered (A : Input σ → Controller σ → Prop) (c d e : Controller σ) : Prop where
  before : Run A c d
  state : d.powerState = .s3s5
  held : A .step d.stepPower
  after : Run A d.stepPower e

structure Below (layout : BoardLayout) (config : ControllerConfig) (rail : RailId) (row : Rail)
    (good : σ → Prop) (kept : Bool) (c : Controller σ) : Prop where
  ready : Ready layout config rail row good c
  hot : c.cooling.inShutdown = true
  sunk : c.Sunk
  outlook : c.Outlook rail config.cooling.overrideDuty kept

theorem Below.apply {kept : Bool} (h : Below layout config rail row good kept c)
    (steady : (fanFeed layout config rail).Steady row good) (input : Input σ)
    (applied : c.apply input = .ok c') (held : Aftermath row good input c') :
    Below layout config rail row good kept c' := by
  have ready := h.ready.apply steady input held.gentle applied
  by_cases step : input = .step
  · subst step
    cases applied
    have low : c.powerState ∈ bottom := List.mem_cons_of_mem _ h.sunk.state
    exact ⟨ready, held.hot, h.sunk.step, h.outlook.spared (stepPower_spares low h.ready steady)⟩
  · have stays := c.apply_stays c' input step (unmanned_running held.unmanned) applied
    exact ⟨ready, held.hot, h.sunk.stays stays held.unasked,
      h.outlook.apply h.ready steady h.hot input step held applied⟩

/-- What the override had left to do when the primary rails were lowered says what stands at the
end. -/
theorem Lowered.below {c d e : Controller σ} (lowered : Lowered (Aftermath row good) c d e)
    (steady : (fanFeed layout config rail).Steady row good)
    (ready : Ready layout config rail row good c) (latched : c.train.Latched) :
    Below layout config rail row good d.overridePending e := by
  have ready' : Ready layout config rail row good d :=
    lowered.before.ready steady (fun _ _ held => held.gentle) ready
  -- The latch is set, so from S5 on there is no way but down.
  have latch : d.forcing = true := by
    refine lowered.before.latched latched ?_
    change PowerTrain.isDescent d.powerState = true
    rw [lowered.state]
    rfl
  have sunk : d.stepPower.Sunk := by
    have next := d.stepPower_lowers lowered.state
    have move := d.stepPower_moves
    have latch' : d.serviceFaults.2.forcing = true := d.serviceFaults_fields.2.1 latch
    rw [latch', lowered.state, next] at move
    refine ⟨by simp [next], ?_, lowered.held.unasked⟩
    generalize d.stepPower.forcing = f at move ⊢
    cases move
    rfl
  have first : Below layout config rail row good d.overridePending d.stepPower :=
    ⟨ready'.stepPower steady, lowered.held.hot, sunk, d.stepPower_outlook lowered.state rail _⟩
  exact lowered.after.invariant _ (fun _ input _ h applied held =>
    h.apply steady input applied held) first

/-- Since the shutdown began, the controller was above S5 without a lowering of the primary rails,
or it never was above S5, or the primary rails were lowered. -/
theorem Run.descends {c e : Controller σ} (run : Run (Aftermath row good) c e)
    (steady : (fanFeed layout config rail).Steady row good)
    (ready : Ready layout config rail row good c) (hot : c.cooling.inShutdown = true)
    (armed : c.overridePending = true) :
    e.powerState ∈ upper ∨
      (e.powerState ∈ bottom ∧ e.Outlook rail config.cooling.overrideDuty true) ∨
      ∃ d, Lowered (Aftermath row good) c d e := by
  induction run with
  | start =>
    by_cases high : c.powerState ∈ upper
    · exact .inl high
    · have low : c.powerState ∈ bottom := by
        revert high
        cases c.powerState <;> decide
      refine .inr (.inl ⟨low, fun done => ?_⟩)
      rw [armed] at done
      cases done
  | @next e e' input run applied held ih =>
    have ready' : Ready layout config rail row good e :=
      run.ready steady (fun _ _ held => held.gentle) ready
    have hot' : e.cooling.inShutdown = true :=
      run.invariant (fun e => e.cooling.inShutdown = true) (fun _ _ _ _ _ held => held.hot) hot
    by_cases step : input = .step
    · subst step
      cases applied
      -- A step leaves the states above S5 by the lowering, and the bottom by the climb from S5.
      rcases ih with high | ⟨low, outlook⟩ | ⟨d, lowered⟩
      · by_cases last : e.powerState = .s3s5
        · exact .inr (.inr ⟨e, run, last, held, .start⟩)
        · exact .inl (e.stepPower_upper high last)
      · rcases e.stepPower_bottom low with stays | climbs
        · exact .inr (.inl ⟨stays, outlook.spared (stepPower_spares low ready' steady)⟩)
        · exact .inl climbs
      · exact .inr (.inr ⟨d, lowered.before, lowered.state, lowered.held,
          .next .step lowered.after rfl held⟩)
    · have stays := e.apply_stays e' input step (unmanned_running held.unmanned) applied
      rcases ih with high | ⟨low, outlook⟩ | ⟨d, lowered⟩
      · exact .inl (by rwa [stays.state])
      · exact .inr (.inl ⟨by rwa [stays.state],
          outlook.apply ready' steady hot' input step held applied⟩)
      · exact .inr (.inr ⟨d, lowered.before, lowered.state, lowered.held,
          .next input lowered.after applied held⟩)

def FansRun (rail : RailId) (duty : Nat) (c : Controller σ) : Prop :=
  (c.rig.status rail).1 = .on ∧ c.fans.All (FanChannel.Overridden duty)

/-- After a critical tick on a board that always confirms the fan supply, and with the override done
in G3, the fans run by hand at the duty of the override, unless the override was done already when
the primary rails were lowered. In that case every fan is off. -/
theorem override_outlasts (layout : BoardLayout) (fanCount : Nat) (config : ControllerConfig)
    (board : σ) (rail : RailId) (row : Rail) (good : σ → Prop)
    (supplied : layout.fanSupply = some rail)
    (steady : (fanFeed layout config rail).Steady row good) (fine : good board)
    (c c₀ e : Controller σ) (tick : CoolingTick)
    (boot : Run (fun input _ => Gentle row good input) (fresh layout fanCount config board) c)
    (ticked : c.tickSecond = .ok (tick, c₀)) (critical : tick.critical.isSome)
    (down : Run (Aftermath row good) c₀ e) (home : e.powerState = .g3)
    (done : e.overridePending = false) :
    (e.FansRun rail config.cooling.overrideDuty ∨
        ∃ d, Lowered (Aftermath row good) c₀ d e ∧ d.overridePending = false) ∧
      ∀ d, Lowered (Aftermath row good) c₀ d e →
        if d.overridePending then e.FansRun rail config.cooling.overrideDuty
        else e.fans.All FanChannel.Off := by
  have ready : Ready layout config rail row good c :=
    boot.ready steady (fun _ _ gentle => gentle) (fresh_ready fanCount board supplied steady fine)
  have ready₀ := ready.tickSecond steady tick ticked
  have latched : c.train.Latched := boot.latched (PowerTrain.fresh_latched _ _ _ _ _)
  have latched₀ : c₀.train.Latched :=
    c.apply_latched c₀ .tick latched (by simp only [apply, ticked]; rfl)
  obtain ⟨_, armed, hot⟩ := c.tickSecond_critical c₀ tick ticked critical
  have decided : ∀ d, Lowered (Aftermath row good) c₀ d e →
      if d.overridePending then e.FansRun rail config.cooling.overrideDuty
      else e.fans.All FanChannel.Off := by
    intro d lowered
    have below := lowered.below steady ready₀ latched₀
    have outlook := below.outlook
    cases pending : d.overridePending with
    | true =>
      rw [pending] at outlook
      have cooled := outlook done
      rw [if_pos rfl]
      exact ⟨below.ready.fed.live steady cooled.entry, cooled.fans⟩
    | false =>
      rw [pending] at outlook
      rw [if_neg Bool.false_ne_true]
      exact outlook.2
  refine ⟨?_, decided⟩
  rcases down.descends steady ready₀ hot armed with high | ⟨_, outlook⟩ | ⟨d, lowered⟩
  · rw [home] at high
    simp [upper] at high
  · have ready' : Ready layout config rail row good e :=
      down.ready steady (fun _ _ held => held.gentle) ready₀
    have cooled := outlook done
    exact .inl ⟨ready'.fed.live steady cooled.entry, cooled.fans⟩
  · cases pending : d.overridePending with
    | true =>
      have runs := decided d lowered
      rw [if_pos pending] at runs
      exact .inl runs
    | false => exact .inr ⟨d, lowered, pending⟩

def promptCarrier : Controller Bench :=
  fresh Carrier.layout Carrier.fanCount ControllerConfig.builtIn Carrier.promptBench

/-- Tests an input that leaves the bench to the controller, and the state after it, for what the
aftermath asks of the two. -/
def undisturbed (input : Input Bench) (c : Controller Bench) : Bool :=
  match input with
  | .outside _ => false
  | input => input.unmanned && c.cooling.inShutdown && !c.sequencer.exitRequested

theorem undisturbed_aftermath (input : Input Bench) (c : Controller Bench)
    (h : undisturbed input c = true) : Aftermath Carrier.fanRow Bench.Prompt input c := by
  cases input with
  | outside => cases h
  | _ =>
    simp only [undisturbed, Bool.and_eq_true, Bool.not_eq_true'] at h
    obtain ⟨⟨unmanned, hot⟩, unasked⟩ := h
    exact ⟨trivial, unmanned, hot, unasked⟩

theorem along_undisturbed (inputs : List (Input Bench)) (c e : Controller Bench)
    (h : along undisturbed inputs c = some e) :
    Run (Aftermath Carrier.fanRow Bench.Prompt) c e :=
  along_run undisturbed inputs (fun input _ c => undisturbed_aftermath input c) c c e .start h

theorem heat_gentle : Gentle Carrier.fanRow Bench.Prompt (.outside heat) := by
  intro b h
  have prompt : (heat b).Prompt :=
    ⟨h.mapped, by simp [heat, Bench.change, h.free], by simp [heat, Bench.change, h.whole],
      h.followers⟩
  exact ⟨prompt, fun lit => prompt.lit_iff.2 (h.lit_iff.1 lit)⟩

theorem hotStart_gentle (c : Controller Bench)
    (h : along (fun _ _ => true) hotStart promptCarrier = some c) :
    Run (fun input _ => Gentle Carrier.fanRow Bench.Prompt input) promptCarrier c := by
  refine along_run _ hotStart (fun input hm _ _ => ?_) _ _ c .start h
  simp only [hotStart, List.mem_append, List.mem_cons, List.mem_replicate, List.not_mem_nil,
    or_false] at hm
  rcases hm with ((rfl | rfl) | ⟨_, rfl⟩) | rfl
  · trivial
  · trivial
  · trivial
  · exact heat_gentle

def timelyFall : List (Input Bench) :=
  [.wait (Span.ofSeconds 2), .poll, .step, .step, .step]

def timelyEnd : List (Input Bench) :=
  [.step, .step, .wait (Span.ofMillis 100), .poll]

def lateFall : List (Input Bench) :=
  [.wait (Span.ofSeconds 3), .poll] ++ List.replicate 6 .step

/-- With a poll in time, the override is still to come when the primary rails are lowered, and the
fans run on in G3. -/
theorem carrier_fans_run_on :
    ∃ c c₀ d e tick, Run (fun input _ => Gentle Carrier.fanRow Bench.Prompt input) promptCarrier c ∧
      c.powerState = .s0 ∧ c.tickSecond = .ok (tick, c₀) ∧ tick.critical.isSome ∧
      Lowered (Aftermath Carrier.fanRow Bench.Prompt) c₀ d e ∧ d.overridePending = true ∧
      e.powerState = .g3 ∧ e.overridePending = false ∧
      e.FansRun Carrier.fanRail ControllerConfig.builtIn.cooling.overrideDuty := by
  obtain ⟨c, booted, up, ⟨tick, c₀⟩, ticked, critical, d, fell, state, pending, stepped, e, ended,
      home, done⟩ :
      ∃ c, along (fun _ _ => true) hotStart promptCarrier = some c ∧ c.powerState = .s0 ∧
        ∃ begun, c.tickSecond = .ok begun ∧ begun.1.critical.isSome ∧
          ∃ d, along undisturbed timelyFall begun.2 = some d ∧ d.powerState = .s3s5 ∧
            d.overridePending = true ∧ undisturbed .step d.stepPower = true ∧
            ∃ e, along undisturbed timelyEnd d.stepPower = some e ∧ e.powerState = .g3 ∧
              e.overridePending = false := by
    decide +kernel
  have boot := hotStart_gentle c booted
  have stepped : Aftermath Carrier.fanRow Bench.Prompt .step d.stepPower :=
    undisturbed_aftermath .step d.stepPower stepped
  have lowered : Lowered (Aftermath Carrier.fanRow Bench.Prompt) c₀ d e :=
    ⟨along_undisturbed timelyFall c₀ d fell, state, stepped,
      along_undisturbed timelyEnd d.stepPower e ended⟩
  have down : Run (Aftermath Carrier.fanRow Bench.Prompt) c₀ e :=
    (lowered.before.next .step rfl stepped).trans lowered.after
  have outcome := (override_outlasts Carrier.layout Carrier.fanCount ControllerConfig.builtIn
    Carrier.promptBench Carrier.fanRail Carrier.fanRow Bench.Prompt rfl Bench.prompt_steady
    Bench.promptBench_prompt c c₀ e tick boot ticked critical down home done).2 d lowered
  rw [if_pos pending] at outcome
  exact ⟨c, c₀, d, e, tick, boot, up, ticked, critical, lowered, pending, home, done, outcome⟩

/-- With a poll that is late, the forced shutdown and the override run together in S0, and the way
down turns off every fan that the override had set. -/
theorem carrier_fans_stop :
    Carrier.layout.fanSupply = some Carrier.fanRail ∧
      (fanFeed Carrier.layout ControllerConfig.builtIn Carrier.fanRail).Steady Carrier.fanRow
        Bench.Prompt ∧
      Carrier.promptBench.Prompt ∧
      ∃ c c₀ e tick, Run (fun input _ => Gentle Carrier.fanRow Bench.Prompt input) promptCarrier c ∧
        c.powerState = .s0 ∧ c.tickSecond = .ok (tick, c₀) ∧ tick.critical.isSome ∧
        Run (Aftermath Carrier.fanRow Bench.Prompt) c₀ e ∧
        e.powerState = .g3 ∧ e.overridePending = false ∧
        ¬ e.FansRun Carrier.fanRail ControllerConfig.builtIn.cooling.overrideDuty := by
  obtain ⟨c, booted, up, ⟨tick, c₀⟩, ticked, critical, e, fell, home, done, dark⟩ :
      ∃ c, along (fun _ _ => true) hotStart promptCarrier = some c ∧ c.powerState = .s0 ∧
        ∃ begun, c.tickSecond = .ok begun ∧ begun.1.critical.isSome ∧
          ∃ e, along undisturbed lateFall begun.2 = some e ∧ e.powerState = .g3 ∧
            e.overridePending = false ∧ (e.rig.status Carrier.fanRail).1 = .off := by
    decide +kernel
  refine ⟨rfl, Bench.prompt_steady, Bench.promptBench_prompt, c, c₀, e, tick,
    hotStart_gentle c booted, up, ticked, critical, along_undisturbed lateFall c₀ e fell, home,
    done, fun ⟨on, _⟩ => ?_⟩
  rw [dark] at on
  cases on

end BoardWarden.Controller
