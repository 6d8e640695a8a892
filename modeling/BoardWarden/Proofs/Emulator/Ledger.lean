import BoardWarden.Emulator.Session
import BoardWarden.Proofs.Controller.FaultOrder
import BoardWarden.Proofs.Power.Views

set_option autoImplicit false

namespace BoardWarden.Emulator

/-- The log of a session: the journal, milestones that come before those of the carrier, and the number
of the first entry that was not shown. -/
structure Ledger where
  journal : Journal
  milestones : List ChipsetEvent
  nextLogId : Nat

def ledger : View World World Ledger where
  see l p :=
    { board := { p.board with milestones := l.milestones ++ p.board.milestones }, journal := l.journal }
  enter l note := { l with journal := l.journal.enter note }
  now _ _ := rfl
  sleep _ _ _ := rfl
  readLine _ _ _ := rfl
  driveLine l p line level := by
    simp only [Plant.driveLine, Board.driveLine, World.write]
    split <;> rfl
  readMillivolts _ _ _ := rfl
  notify l p event := by
    simp only [Plant.notify, Board.notify, List.append_assoc]
  setApReset _ _ _ := rfl
  setIdleSleep _ _ _ := rfl
  recordAt _ _ _ _ _ := rfl

theorem ledger_enters (l : Ledger) (notes : List Note) :
    ledger.enters l notes = { l with journal := l.journal.enterAll notes } := by
  induction notes generalizing l with
  | nil => rfl
  | cons note rest ih => exact ih (ledger.enter l note)

theorem enters_nextLogId (l : Ledger) (notes : List Note) :
    (ledger.enters l notes).nextLogId = l.nextLogId := by rw [ledger_enters]

section Plants

def Logs {α : Type} (f : Plant World → α × Plant World) (p : Plant World) : Prop :=
  ∃ notes, ∀ l, f (ledger.see l p) = ((f p).1, ledger.see (ledger.enters l notes) (f p).2)

variable {α β : Type} {p : Plant World}

theorem Logs.plain {f : Plant World → α × Plant World}
    (same : ∀ l, f (ledger.see l p) = ((f p).1, ledger.see l (f p).2)) : Logs f p := ⟨[], same⟩

theorem Logs.bind {f : Plant World → α × Plant World} {g : α → Plant World → β × Plant World}
    (h : Logs f p) (h' : Logs (g (f p).1) (f p).2) : Logs (fun p => g (f p).1 (f p).2) p := by
  obtain ⟨notes, first⟩ := h
  obtain ⟨notes', second⟩ := h'
  refine ⟨notes ++ notes', fun l => ?_⟩
  simp only [first, second, View.enters_append]

theorem Logs.map {f : Plant World → α × Plant World} (h : Logs f p) (g : α → β) :
    Logs (fun p => (g (f p).1, (f p).2)) p :=
  h.bind (g := fun a p => (g a, p)) (.plain fun _ => rfl)

end Plants

section Fans

open FanBank

variable (b : FanBank) (fan : FanId) (powered : Bool) (time : Instant) (p : Plant World)

theorem setEnabled_logs (on : Bool) : Logs (b.setEnabled fan on) p := by
  refine .plain fun l => ?_
  simp only [setEnabled]
  repeat' split
  all_goals rfl

theorem setDuty_logs (percent : Nat) : Logs (b.setDuty fan percent) p := by
  refine .plain fun l => ?_
  simp only [setDuty]
  split <;> rfl

theorem checkChannel_logs (c : FanChannel) : Logs (checkChannel fan powered time c) p := by
  have tach : ∀ l, (ledger.see l p).tach fan = p.tach fan := fun _ => rfl
  by_cases stalls : c.idle powered = false ∧ (p.tach fan).edges = c.lastEdges ∧ c.status ≠ .stopped
  · refine ⟨[⟨.fanStalled fan, .fan c.duty 0, time⟩], fun l => ?_⟩
    simp only [checkChannel, tach, stalls, Bool.false_eq_true, ↓reduceIte]
    rfl
  · refine .plain fun l => ?_
    simp only [checkChannel, tach]
    repeat' split
    all_goals first
      | rfl
      | simp_all

theorem controlChannel_logs (config : FanConfig) (c : FanChannel) :
    Logs (controlChannel config fan time c) p := by
  have tach : ∀ l, (ledger.see l p).tach fan = p.tach fan := fun _ => rfl
  cases free : c.uncontrolled with
  | true =>
    refine .plain fun l => ?_
    simp only [controlChannel, free, ↓reduceIte]
  | false =>
    cases aimed : FanChannel.correction (min config.band maxSigned)
        (c.speedError (c.measured config (p.tach fan).period)) c.duty with
    | hold =>
      refine .plain fun l => ?_
      simp only [controlChannel, tach, free, aimed, Bool.false_eq_true, ↓reduceIte]
    | move duty =>
      refine .plain fun l => ?_
      simp only [controlChannel, tach, free, aimed, Bool.false_eq_true, ↓reduceIte]
      rfl
    | saturated =>
      by_cases known : c.status = .frustrated
      · refine .plain fun l => ?_
        simp only [controlChannel, tach, free, aimed, known, Bool.false_eq_true, ↓reduceIte]
      · refine ⟨[⟨.fanFrustrated fan, .fan c.duty (c.measured config (p.tach fan).period), time⟩],
          fun l => ?_⟩
        simp only [controlChannel, tach, free, aimed, known, Bool.false_eq_true, ↓reduceIte]
        rfl

theorem stepChannels_logs (step : FanId → FanChannel → Plant World → FanChannel × Plant World)
    (logs : ∀ fan c p, Logs (step fan c) p) (first : Nat) (channels : List FanChannel)
    (p : Plant World) : Logs (stepChannels step first channels) p := by
  induction channels generalizing first p with
  | nil => exact .plain fun _ => rfl
  | cons c rest ih =>
    exact (logs ⟨first⟩ c p).bind (g := fun done p =>
      (done :: (stepChannels step (first + 1) rest p).1, (stepChannels step (first + 1) rest p).2))
      ((ih (first + 1) _).map (List.cons _))

theorem healthTick_logs : Logs (b.healthTick powered time) p :=
  (stepChannels_logs (fun fan c p => checkChannel fan powered time c p)
    (fun fan c p => checkChannel_logs fan powered time p c) 0 b.channels p).map
      fun channels => { b with channels }

theorem controlTick_logs : Logs (b.controlTick powered time) p := by
  cases powered with
  | false => exact .plain fun _ => rfl
  | true =>
    exact (stepChannels_logs (fun fan c p => controlChannel b.config fan time c p)
      (fun fan c p => controlChannel_logs fan time p b.config c) 0 b.channels p).map
        fun channels => { b with channels }

theorem setFans_logs (on : Bool) (fans : List FanId) (b : FanBank) (p : Plant World) :
    Logs (Controller.setFans on fans b) p := by
  induction fans generalizing b p with
  | nil => exact .plain fun _ => rfl
  | cons fan rest ih => exact (setEnabled_logs b fan p on).bind (ih _ _)

theorem overrideFans_logs (duty : Nat) (fans : List FanId) (b : FanBank) (p : Plant World) :
    Logs (Controller.overrideFans duty fans b) p := by
  induction fans generalizing b p with
  | nil => exact .plain fun _ => rfl
  | cons fan rest ih =>
    have on := setEnabled_logs (b.setMode fan .manual) fan p true
    have set := on.bind (g := fun b p => b.setDuty fan duty p) (setDuty_logs _ fan _ duty)
    exact set.bind (g := fun b p => Controller.overrideFans duty rest b p) (ih _ _)

theorem stepsFit_overLog (fits : FanId → FanChannel → Plant World → Bool)
    (step : FanId → FanChannel → Plant World → FanChannel × Plant World)
    (same : ∀ fan c p l, fits fan c (ledger.see l p) = fits fan c p)
    (logs : ∀ fan c p, Logs (step fan c) p) (first : Nat) (channels : List FanChannel)
    (p : Plant World) (l : Ledger) :
    stepsFit fits step first channels (ledger.see l p) = stepsFit fits step first channels p := by
  induction channels generalizing first p l with
  | nil => rfl
  | cons c rest ih =>
    obtain ⟨notes, done⟩ := logs ⟨first⟩ c p
    simp only [stepsFit, same, done, ih]

theorem controlFits_overLog (l : Ledger) :
    b.controlFits powered time (ledger.see l p) = b.controlFits powered time p := by
  have steps := stepsFit_overLog (channelFits b.config)
    (fun fan c p => controlChannel b.config fan time c p) (fun _ _ _ _ => rfl)
    (fun fan c p => controlChannel_logs fan time p b.config c) 0 b.channels p l
  simp only [controlFits, steps]

theorem demandOf_overLog (percent : Nat) (l : Ledger) (fans : List FanId) (b : FanBank) :
    demandOf percent (ledger.see l p) fans b = demandOf percent p fans b := by
  have asked : ∀ (b : FanBank) fan, b.demand fan percent (ledger.see l p) = b.demand fan percent p :=
    fun _ _ => rfl
  induction fans generalizing b with
  | nil => rfl
  | cons fan rest ih => simp only [demandOf, asked, ih]

end Fans

section Zones

open Cooling

theorem readZones_logs (time : Instant) (zones : List Zone) (p : Plant World) :
    Logs (readZones time zones) p := by
  induction zones generalizing p with
  | nil => exact .plain fun _ => rfl
  | cons z rest ih =>
    cases cooling : z.cooling with
    | false =>
      obtain ⟨notes, same⟩ := ih p
      refine ⟨notes, fun l => ?_⟩
      simp only [readZones, cooling, same, Bool.false_eq_true, ↓reduceIte]
    | true =>
      have read : ∀ l, (ledger.see l p).readKelvin z.definition.sensor =
          ((p.readKelvin z.definition.sensor).1, ledger.see l (p.readKelvin z.definition.sensor).2) :=
        fun _ => rfl
      cases kelvin : (p.readKelvin z.definition.sensor).1 with
      | ok k =>
        obtain ⟨notes, same⟩ := ih (p.readKelvin z.definition.sensor).2
        refine ⟨notes, fun l => ?_⟩
        simp only [readZones, cooling, read, kelvin, same, ↓reduceIte]
      | error fault =>
        obtain ⟨notes, same⟩ := ih
          ((p.readKelvin z.definition.sensor).2.noteAt (.sensorReadFailed z.definition.sensor) time)
        refine ⟨⟨.sensorReadFailed z.definition.sensor, .none, time⟩ :: notes, fun l => ?_⟩
        have noted : ∀ q : Plant World,
            (ledger.see l q).noteAt (.sensorReadFailed z.definition.sensor) time =
              ledger.see (ledger.enter l ⟨.sensorReadFailed z.definition.sensor, .none, time⟩)
                (q.noteAt (.sensorReadFailed z.definition.sensor) time) := fun _ => rfl
        simp only [readZones, cooling, read, kelvin, noted, same, ↓reduceIte]
        rfl

theorem updateZones_notes (limits : PidLimits) (time : Instant) (first : Nat)
    (readings : List (Zone × Option Int)) (j j' : Journal) (zones : List Zone)
    (updated : updateZones limits time first readings j = .ok (zones, j')) :
    ∃ notes, ∀ k, updateZones limits time first readings k = .ok (zones, k.enterAll notes) := by
  induction readings generalizing first j j' zones with
  | nil =>
    cases updated
    exact ⟨[], fun _ => rfl⟩
  | cons reading rest ih =>
    obtain ⟨z, celsius⟩ := reading
    cases cooling : z.cooling with
    | false =>
      simp only [updateZones, cooling, Bool.false_eq_true, ↓reduceIte] at updated ⊢
      cases others : updateZones limits time (first + 1) rest j with
      | error halt =>
        rw [others] at updated
        cases updated
      | ok answer =>
        rw [others] at updated
        cases updated
        obtain ⟨notes, same⟩ := ih (first + 1) j _ _ others
        exact ⟨notes, fun k => by simp only [same]⟩
    | true =>
      cases taken : z.update celsius limits with
      | error halt =>
        simp only [updateZones, cooling, taken, ↓reduceIte] at updated
        cases updated
      | ok answer =>
        obtain ⟨update, zone⟩ := answer
        let warning : Note := ⟨.thermalWarning first, .temperature (celsius.getD 0), time⟩
        have entered : ∀ k : Journal, (if update.latched then
              k.record (.thermalWarning first) (.temperature (celsius.getD 0)) time
            else k) = k.enterAll (if update.latched then [warning] else []) := by
          intro k
          split <;> rfl
        simp only [updateZones, cooling, taken, entered, ↓reduceIte] at updated ⊢
        cases others : updateZones limits time (first + 1) rest
            (j.enterAll (if update.latched then [warning] else [])) with
        | error halt =>
          rw [others] at updated
          cases updated
        | ok answer =>
          rw [others] at updated
          cases updated
          obtain ⟨notes, same⟩ := ih (first + 1) _ _ _ others
          refine ⟨(if update.latched then [warning] else []) ++ notes, fun k => ?_⟩
          simp only [same, Journal.enterAll_append]

theorem followDemand_notes {c d : Cooling} {inputs : CoolingInputs}
    {readings : List (Zone × Option Int)} {time : Instant} {p p' : Plant World} {demand : Option Nat}
    (followed : c.followDemand inputs readings time p = .ok (demand, d, p')) :
    ∃ notes, ∀ l, c.followDemand inputs readings time (ledger.see l p) =
      .ok (demand, d, ledger.see (ledger.enters l notes) p') := by
  cases enabled : inputs.controlEnabled with
  | false =>
    simp only [followDemand, enabled, Bool.false_eq_true, ↓reduceIte] at followed ⊢
    cases followed
    exact ⟨[], fun _ => rfl⟩
  | true =>
    simp only [followDemand, enabled, ↓reduceIte] at followed ⊢
    cases updated : updateZones c.config.pid time 0 readings p.journal with
    | error halt =>
      rw [updated] at followed
      cases followed
    | ok answer =>
      rw [updated] at followed
      cases followed
      obtain ⟨notes, same⟩ := updateZones_notes _ _ _ _ _ _ _ updated
      refine ⟨notes, fun l => ?_⟩
      rw [same, ledger_enters]
      rfl

theorem tick_notes {c d : Cooling} {inputs : CoolingInputs} {time : Instant} {p p' : Plant World}
    {answer : CoolingTick} (ticked : c.tick inputs time p = .ok (answer, d, p')) :
    ∃ notes, ∀ l, c.tick inputs time (ledger.see l p) =
      .ok (answer, d, ledger.see (ledger.enters l notes) p') := by
  obtain ⟨notes, read⟩ := readZones_logs time c.zones p
  simp only [tick] at ticked
  split at ticked
  · rename_i zone critical
    cases ticked
    refine ⟨notes ++ [⟨.thermalCritical zone,
      .temperature (celsiusAt (readZones time c.zones p).1 zone), time⟩], fun l => ?_⟩
    simp only [tick, read, critical, View.enters_append]
    rfl
  · rename_i calm
    split at ticked
    · cases ticked
    · rename_i demand followed q followed_eq
      obtain ⟨notes', same⟩ := followDemand_notes followed_eq
      split at ticked
      · rename_i stays
        cases ticked
        refine ⟨notes ++ notes', fun l => ?_⟩
        simp only [tick, read, calm, same, stays, View.enters_append]
      · rename_i recovery recovers
        cases ticked
        refine ⟨notes ++ notes' ++ [⟨.thermalRecovered, .none, time⟩], fun l => ?_⟩
        simp only [tick, read, calm, same, recovers, View.enters_append]
        rfl

end Zones

def overLog (c : Controller World) (l : Ledger) : Controller World :=
  { c with rig := ledger.rig l c.rig }

def Alike (f : Controller World → Controller World) (c : Controller World) : Prop :=
  ∃ notes, ∀ l, f (overLog c l) = overLog (f c) (ledger.enters l notes)

namespace Alike

variable {c : Controller World} {f g : Controller World → Controller World}

theorem plain (same : ∀ l, f (overLog c l) = overLog (f c) l) : Alike f c := ⟨[], same⟩

theorem trans (h : Alike f c) (h' : Alike g (f c)) : Alike (fun c => g (f c)) c := by
  obtain ⟨notes, first⟩ := h
  obtain ⟨notes', second⟩ := h'
  refine ⟨notes ++ notes', fun l => ?_⟩
  simp only [first, second, View.enters_append]

theorem congr (h : Alike g c) (here : f c = g c)
    (there : ∀ l, f (overLog c l) = g (overLog c l)) :
    Alike f c := by
  obtain ⟨notes, same⟩ := h
  exact ⟨notes, fun l => by rw [there, here, same]⟩

theorem of_tells {causes : List ShutdownReason} {act : View.Act (Unit × Sequencer)}
    (told : ledger.Tells causes c.sequencer act c.rig)
    (here : f c = { c with sequencer := (act c.rig).1.2, rig := (act c.rig).2 })
    (there : ∀ l, f (overLog c l) = { c with
      sequencer := (act (ledger.rig l c.rig)).1.2
      rig := (act (ledger.rig l c.rig)).2 }) : Alike f c := by
  obtain ⟨notes, _, kept⟩ := told
  refine ⟨notes, fun l => ?_⟩
  have same : act (ledger.rig l c.rig) =
      ((act c.rig).1, ledger.rig (ledger.enters l notes) (act c.rig).2) := kept l
  rw [there, here, same]
  rfl

end Alike

section Control

variable (c : Controller World)

theorem forceShutdown_alike (reason : ShutdownReason) : Alike (·.forceShutdown reason) c :=
  .of_tells (ledger.force_tells c.rig c.sequencer reason (List.mem_singleton.2 rfl) c.now ()) rfl
    fun _ => rfl

theorem serviceFaults_alike : Alike (·.serviceFaults.2) c := by
  have parts : ∀ c : Controller World, c.serviceFaults.2 = { c with
      sequencer := c.train.serviceFaults.sequencer, rig := c.train.serviceFaults.rig } := by
    intro c
    rw [← c.serviceFaults_train]
    simp only [Controller.serviceFaults]
    repeat' split
    all_goals rfl
  exact .of_tells (ledger.serviceFaults_tells c.rig c.sequencer) (parts c) fun l => parts (overLog c l)

theorem handle_alike : Alike (fun c =>
    { c with sequencer := (c.sequencer.handle c.rig).1, rig := (c.sequencer.handle c.rig).2 }) c :=
  .of_tells (ledger.handle_tells c.rig c.sequencer) rfl fun _ => rfl

theorem withFans_alike (f : FanBank → Plant World → FanBank × Plant World)
    (logs : Logs (f c.fans) c.plant) : Alike (fun c =>
      { c.withPlant (f c.fans c.plant).2 with fans := (f c.fans c.plant).1 }) c := by
  obtain ⟨notes, same⟩ := logs
  exact ⟨notes, fun l => congrArg (fun done => { c.withPlant done.2 with fans := done.1 }) (same l)⟩

theorem enableFans_alike (on : Bool) : Alike (·.enableFans on) c :=
  withFans_alike c (fun b p => Controller.setFans on b.fans b p) (setFans_logs on _ _ _)

theorem switchFans_alike (origin : PowerState) : Alike (·.switchFans origin) c := by
  have state : ∀ l, (overLog c l).powerState = c.powerState := fun _ => rfl
  have agenda : ∀ l, (overLog c l).agenda = c.agenda := fun _ => rfl
  have switched : ∀ on, (∀ d : Controller World, d.powerState = c.powerState → d.agenda = c.agenda →
      d.switchFans origin = d.enableFans on) → Alike (·.switchFans origin) c := fun on same =>
    (enableFans_alike c on).congr (same c rfl rfl) fun l => same _ (state l) (agenda l)
  have rests : (∀ d : Controller World, d.powerState = c.powerState → d.agenda = c.agenda →
      d.switchFans origin = d) → Alike (·.switchFans origin) c := fun same =>
    .plain fun l => by rw [same c rfl rfl, same _ (state l) (agenda l)]
  by_cases stays : c.powerState = origin
  · exact rests fun d here _ => by simp only [Controller.switchFans, here, stays, ↓reduceIte]
  · by_cases up : c.powerState = .s0
    · exact switched true fun d here _ => by
        rw [up] at here stays
        simp only [Controller.switchFans, here, stays, ↓reduceIte]
    · by_cases down : c.powerState = .s5 ∧ origin = .s3s5
      · obtain ⟨s5, rfl⟩ := down
        rw [s5] at stays up
        cases override : c.agenda.isPending .thermalFanOverride with
        | true =>
          exact rests fun d here armed => by
            simp [Controller.switchFans, Controller.disableFans, here, armed, s5, override]
        | false =>
          exact switched false fun d here armed => by
            simp [Controller.switchFans, Controller.disableFans, here, armed, s5, override]
      · exact rests fun d here _ => by
          simp [Controller.switchFans, here, stays, up, down]

theorem pullThermalForward_alike : Alike (·.pullThermalForward) c := by
  have same : ∀ l, ((overLog c l).powerState = c.powerState) ∧ (overLog c l).agenda = c.agenda :=
    fun _ => ⟨rfl, rfl⟩
  refine .plain fun l => ?_
  simp only [Controller.pullThermalForward, same l]
  split <;> rfl

theorem stepPower_alike : Alike (·.stepPower) c := by
  have worked := (serviceFaults_alike c).trans (handle_alike _)
  have pulled := worked.trans (pullThermalForward_alike _)
  have switched := pulled.trans (g := (·.switchFans c.powerState)) (switchFans_alike _ _)
  refine switched.congr c.stepPower_work fun l => ?_
  rw [Controller.stepPower_work]
  rfl

theorem reset_alike (reason : ResetReason) : Alike (fun c => (c.reset reason).2) c :=
  .of_tells (ledger.reset_tells c.rig c.sequencer reason) rfl fun _ => rfl

theorem runReset_alike : Alike (·.runReset) c := by
  have marked : ∀ l, (overLog c l).watchdogReset = c.watchdogReset := fun _ => rfl
  cases watchdog : c.watchdogReset with
  | true =>
    have asked : Alike (fun c => { c.requestPowerOn.2 with watchdogReset := false })
        (c.reset .watchdog).2 := .plain fun _ => rfl
    refine ((reset_alike c .watchdog).trans asked).congr ?_ fun l => ?_
    · simp only [Controller.runReset, watchdog, ↓reduceIte]
    · simp only [Controller.runReset, marked l, watchdog, ↓reduceIte]
  | false =>
    refine (reset_alike c .resetButton).congr ?_ fun l => ?_
    · simp only [Controller.runReset, watchdog, Bool.false_eq_true, ↓reduceIte]
    · simp only [Controller.runReset, marked l, watchdog, Bool.false_eq_true, ↓reduceIte]

theorem runFanOverride_alike : Alike (·.runFanOverride) c := by
  let duty := c.config.cooling.overrideDuty
  let timeout := c.config.cooling.fanSupplyTimeout
  have overridden : ∀ d : Controller World, Alike (fun d =>
      { d.withPlant (Controller.overrideFans duty d.fans.fans d.fans d.plant).2 with
        fans := (Controller.overrideFans duty d.fans.fans d.fans d.plant).1 }) d := fun d =>
    withFans_alike d (fun b p => Controller.overrideFans duty b.fans b p) (overrideFans_logs _ _ _ _)
  have wired : ∀ l, (overLog c l).fanSupply = c.fanSupply := fun _ => rfl
  cases supply : c.fanSupply with
  | none =>
    refine (overridden c).congr ?_ fun l => ?_
    · simp only [Controller.runFanOverride, Controller.withPlant, supply]
      rfl
    · simp only [Controller.runFanOverride, Controller.withPlant, wired l, supply]
      rfl
  | some rail =>
    obtain ⟨notes, _, kept⟩ := ledger.powerOn_mirrors c.rig rail Span.zero timeout
    have raises : ∀ l, (overLog c l).rig.powerOn rail Span.zero timeout =
        ((c.rig.powerOn rail Span.zero timeout).1,
          ledger.rig (ledger.enters l notes) (c.rig.powerOn rail Span.zero timeout).2) := kept
    have same : ∀ l, (overLog c l).config.cooling.fanSupplyTimeout = timeout := fun _ => rfl
    have raised : Alike (fun c => { c with rig := (c.rig.powerOn rail Span.zero timeout).2 }) c :=
      ⟨notes, fun l => congrArg (fun done => ({ c with rig := done.2 } : Controller World)) (raises l)⟩
    cases powered : (c.rig.powerOn rail Span.zero timeout).1 with
    | error fault =>
      refine raised.congr ?_ fun l => ?_
      · simp only [timeout] at powered
        simp only [Controller.runFanOverride, supply, powered]
        rfl
      · simp only [Controller.runFanOverride, wired l, supply, same l, raises l, powered]
    | ok _ =>
      refine (raised.trans (overridden _)).congr ?_ fun l => ?_
      · simp only [timeout] at powered
        simp only [Controller.runFanOverride, supply, powered]
        rfl
      · simp only [Controller.runFanOverride, wired l, supply, same l, raises l, powered]
        rfl

theorem runAction_alike (action : DeferredAction) : Alike (·.runAction action) c := by
  cases action with
  | forceShutdown => exact forceShutdown_alike c .powerButton
  | thermalForceShutdown => exact forceShutdown_alike c .thermal
  | forceReset => exact runReset_alike c
  | thermalFanOverride => exact runFanOverride_alike c

theorem runDue_alike (count : Nat) : Alike (fun c => (Controller.runDue count c).2) c := by
  induction count generalizing c with
  | zero => exact .plain fun _ => rfl
  | succ count ih =>
    have same : ∀ l, (overLog c l).agenda.takeExpired (overLog c l).now = c.agenda.takeExpired c.now :=
      fun _ => rfl
    cases found : c.agenda.takeExpired c.now with
    | none =>
      refine .plain fun l => ?_
      simp only [Controller.runDue, same l, found]
    | some taken =>
      obtain ⟨action, agenda⟩ := taken
      have marked : Alike (fun c => { c with agenda }) c := .plain fun _ => rfl
      refine ((marked.trans (runAction_alike _ action)).trans (ih _)).congr ?_ fun l => ?_
      · simp only [Controller.runDue, found]
      · simp only [Controller.runDue, same l, found]

theorem fanPowerGood_overLog (l : Ledger) : (overLog c l).fanPowerGood =
    (c.fanPowerGood.1, overLog c.fanPowerGood.2 l) := by
  have wired : (overLog c l).fanSupply = c.fanSupply := rfl
  cases supply : c.fanSupply with
  | none => simp only [Controller.fanPowerGood, wired, supply]
  | some rail =>
    have looked : (overLog c l).rig.status rail =
        ((c.rig.status rail).1, ledger.rig l (c.rig.status rail).2) := ledger.status_rig c.rig l rail
    simp only [Controller.fanPowerGood, wired, supply, looked]
    rfl

theorem fansWorked_alike (time : Instant) : Alike (·.fansWorked time) c := by
  have powered : Alike (fun c => c.fanPowerGood.2) c := .plain fun l => by rw [fanPowerGood_overLog]
  have checked := fun d : Controller World => withFans_alike d
    (fun b p => b.healthTick c.fanPowerGood.1 time p) (healthTick_logs _ _ _ _)
  have controlled := fun d : Controller World => withFans_alike d
    (fun b p => b.controlTick c.fanPowerGood.1 time p) (controlTick_logs _ _ _ _)
  refine ((powered.trans (checked _)).trans (controlled _)).congr rfl fun l => ?_
  simp only [Controller.fansWorked, fanPowerGood_overLog]
  rfl

theorem fansFit_overLog (time : Instant) (l : Ledger) :
    (overLog c l).fansFit time = c.fansFit time := by
  obtain ⟨notes, checked⟩ := healthTick_logs c.fanPowerGood.2.fans c.fanPowerGood.1 time
    c.fanPowerGood.2.plant
  have here : ∀ p : Plant World, (overLog c.fanPowerGood.2 l).fans.healthTick c.fanPowerGood.1 time p =
      c.fanPowerGood.2.fans.healthTick c.fanPowerGood.1 time p := fun _ => rfl
  have plant : (overLog c.fanPowerGood.2 l).plant = ledger.see l c.fanPowerGood.2.plant := rfl
  simp only [Controller.fansFit, fanPowerGood_overLog, here, plant, checked, controlFits_overLog]

theorem applyDemand_overLog {c d : Controller World} {demand : Option Nat}
    (asked : c.applyDemand demand = .ok d) (l : Ledger) :
    (overLog c l).applyDemand demand = .ok (overLog d l) := by
  cases demand with
  | none =>
    cases asked
    rfl
  | some percent =>
    obtain ⟨fans, shared, rfl⟩ := map_ok asked
    obtain ⟨fits, shared⟩ := FanBank.demandWithinWords_ok shared
    have fits' : c.fans.demandFits (overLog c l).plant = true := fits
    have same : c.fans.applyDemand percent (overLog c l).plant = .ok fans :=
      (demandOf_overLog c.plant percent l c.fans.fans c.fans).trans shared
    have asked' : (overLog c l).fans.demandWithinWords percent (overLog c l).plant = .ok fans :=
      (if_pos fits').trans same
    simp only [Controller.applyDemand, asked']
    rfl

theorem followTick_overLog {c d : Controller World} {tick : CoolingTick}
    (followed : c.followTick tick = .ok d) (l : Ledger) :
    (overLog c l).followTick tick = .ok (overLog d l) := by
  have begun : ∀ c : Controller World, (overLog c l).followRecovery tick.recovery =
      overLog (c.followRecovery tick.recovery) l := by
    intro c
    simp only [Controller.followRecovery, Controller.recover]
    repeat' split
    all_goals rfl
  obtain ⟨e, started, rfl⟩ := map_ok followed
  by_cases critical : tick.critical.isSome
  · rw [if_pos critical] at started
    obtain ⟨delay, added, rfl⟩ := map_ok started
    have added' : (overLog c l).config.cooling.forceDelay.add
        (overLog c l).config.cooling.overrideOffset = .ok delay := added
    simp only [Controller.followTick, critical, ↓reduceIte, Controller.startThermalShutdown, added']
    exact congrArg Except.ok (begun (c.askDown.armShutdown delay))
  · rw [if_neg critical] at started
    cases started
    simp only [Controller.followTick, critical, ↓reduceIte, Bool.false_eq_true]
    exact congrArg Except.ok (begun c)

theorem tickSecond_notes {c' : Controller World} {tick : CoolingTick}
    (ticked : c.tickSecond = .ok (tick, c')) :
    ∃ notes, ∀ l, (overLog c l).tickSecond = .ok (tick, overLog c' (ledger.enters l notes)) := by
  obtain ⟨cooling, p, fans, d, read, asked, followed, fits, rfl⟩ := Controller.tickSecond_done ticked
  obtain ⟨notes, cooled⟩ := tick_notes read
  obtain ⟨notes', done⟩ := fansWorked_alike d c.now
  refine ⟨notes ++ notes', fun l => ?_⟩
  have asked' := applyDemand_overLog asked (ledger.enters l notes)
  have followed' := followTick_overLog followed (ledger.enters l notes)
  have fits' : (overLog d (ledger.enters l notes)).fansFit c.now = true :=
    (fansFit_overLog d c.now _).trans fits
  have second := Controller.tickSecond_of_stages (c := overLog c l) (cooled l) asked' followed'
  rw [second, Controller.tickFans_eq, View.enters_append]
  exact (congrArg (Except.map (Prod.mk tick)) (if_pos fits')).trans
    (congrArg (fun c => Except.ok (tick, c)) (done _))

end Control

end BoardWarden.Emulator
