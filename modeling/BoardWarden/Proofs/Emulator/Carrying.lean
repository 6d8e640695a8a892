import BoardWarden.Proofs.Emulator.Ledger
import BoardWarden.Proofs.Emulator.Life

set_option autoImplicit false

namespace BoardWarden.Emulator

def Session.overLog (s : Session) (l : Ledger) : Session :=
  { s with controller := Emulator.overLog s.controller l, nextLogId := l.nextLogId }

namespace Session

variable (s : Session) (l : Ledger)

@[simp] theorem overLog_now : (s.overLog l).now = s.now := rfl

@[simp] theorem overLog_isSteady : (s.overLog l).controller.isSteady = s.controller.isSteady := rfl

@[simp] theorem overLog_wake (stop : Instant) : (s.overLog l).wake stop = s.wake stop := rfl

theorem overLog_enters (notes : List Note) : s.overLog (ledger.enters l notes) =
    { s with
      controller := Emulator.overLog s.controller (ledger.enters l notes)
      nextLogId := l.nextLogId } := by
  rw [Session.overLog, enters_nextLogId]

theorem advanceTo_overLog (time : Instant) :
    (s.overLog l).withWorld ((s.overLog l).world.advanceTo time) =
      (s.withWorld (s.world.advanceTo time)).overLog l := by
  have same : (s.overLog l).world.time = s.world.time := rfl
  simp only [World.advanceTo, same]
  split <;> rfl

theorem stepControl_alike :
    ∃ notes, ∀ l, (s.overLog l).stepControl = s.stepControl.overLog (ledger.enters l notes) := by
  obtain ⟨notes, same⟩ := (runDue_alike s.controller DeferredAction.all.length).trans
    (g := (·.stepPower)) (stepPower_alike _)
  refine ⟨notes, fun l => ?_⟩
  rw [overLog_enters]
  exact congrArg (fun c => { s with controller := c, nextLogId := l.nextLogId }) (same l)

end Session

theorem Seconds.alike {s later : Session} {own : List Instant} (seconds : Seconds s own later) :
    ∃ notes, ∀ l, Seconds (s.overLog l) own (later.overLog (ledger.enters l notes)) := by
  cases seconds with
  | early before => exact ⟨[], fun _ => .early before⟩
  | due tick come ticked =>
    obtain ⟨notes, same⟩ := tickSecond_notes _ ticked
    refine ⟨notes, fun l => ?_⟩
    rw [Session.overLog_enters]
    exact .due (s := s.overLog l) tick come (same l)

theorem Turn.alike {stop : Instant} {s later : Session} {ended : Bool} {own : List Instant}
    (turn : Turn stop s ended own later) :
    ∃ notes, ∀ l, Turn stop (s.overLog l) ended own (later.overLog (ledger.enters l notes)) := by
  obtain ⟨notes, stepped⟩ := s.stepControl_alike
  cases turn with
  | stopped late =>
    refine ⟨notes, fun l => ?_⟩
    have stopped : Turn stop (s.overLog l) true [] (s.overLog l).stepControl :=
      .stopped (by simpa only [stepped, Session.overLog_now] using late)
    rwa [stepped] at stopped
  | moved early busy moved =>
    refine ⟨notes, fun l => ?_⟩
    have moved : Turn stop (s.overLog l) false [] (s.overLog l).stepControl :=
      .moved (by simpa only [stepped, Session.overLog_now] using early)
        (by simpa only [stepped, Session.overLog_isSteady] using busy)
        (by simpa only [stepped, Session.overLog_now] using moved)
    rwa [stepped] at moved
  | idled early busy still =>
    refine ⟨notes, fun l => ?_⟩
    have idled : Turn stop (s.overLog l) false [] ((s.overLog l).stepControl.withWorld
        ((s.overLog l).stepControl.world.advanceTo
          ((s.overLog l).stepControl.now.after Session.idleStep))) :=
      .idled (by simpa only [stepped, Session.overLog_now] using early)
        (by simpa only [stepped, Session.overLog_isSteady] using busy)
        (by simpa only [stepped, Session.overLog_now] using still)
    rwa [stepped, Session.advanceTo_overLog, Session.overLog_now] at idled
  | slept early steady seconds =>
    obtain ⟨notes', same⟩ := seconds.alike
    refine ⟨notes ++ notes', fun l => ?_⟩
    have second := same (ledger.enters l notes)
    rw [← Session.advanceTo_overLog, ← View.enters_append] at second
    have slept := Turn.slept (s := s.overLog l)
      (by simpa only [stepped, Session.overLog_now] using early)
      (by simpa only [stepped, Session.overLog_isSteady] using steady)
      (by simpa only [stepped, Session.overLog_wake] using second)
    rwa [stepped, Session.overLog_wake, Session.overLog_now] at slept

theorem Session.runWithin_alike {stop : Instant} (fuel : Nat) {s last : Session}
    (ran : runWithin stop fuel s = .ok last) :
    ∃ notes, ∀ l, runWithin stop fuel (s.overLog l) = .ok (last.overLog (ledger.enters l notes)) := by
  induction fuel generalizing s with
  | zero =>
    cases ran
    exact ⟨[], fun _ => rfl⟩
  | succ fuel ih =>
    simp only [runWithin] at ran ⊢
    cases passed : pass stop s with
    | error halt =>
      rw [passed] at ran
      cases ran
    | ok answer =>
      obtain ⟨ended, later⟩ := answer
      obtain ⟨own, turn⟩ := (turn_iff stop s later ended).1 passed
      obtain ⟨notes, same⟩ := turn.alike
      have passes := fun l => (turn_iff stop (s.overLog l) _ ended).2 ⟨own, same l⟩
      rw [passed] at ran
      cases ended with
      | true =>
        cases ran
        exact ⟨notes, fun l => by simp only [passes]⟩
      | false =>
        obtain ⟨notes', rest⟩ := ih ran
        exact ⟨notes ++ notes', fun l => by simp only [passes, rest, View.enters_append]⟩

namespace Session

def ownLog (s : Session) : Ledger := ⟨s.controller.journal, [], s.nextLogId⟩

theorem overLog_ownLog (s : Session) : s.overLog s.ownLog = s := rfl

theorem ownLog_overLog (s : Session) (l : Ledger) (notes : List Note) :
    (s.overLog (ledger.enters { l with milestones := [] } notes)).ownLog =
      ledger.enters { l with milestones := [] } notes := by
  rw [ledger_enters]
  rfl

end Session

/-- A command is carried out by a session with this log, and alike with any other: it answers the same,
enters the same notes, and the session lives on. -/
def Told (ticks : List Instant) (log : Ledger) (answer : Ledger → Except Halt (List String × Session)) :
    Prop :=
  ∃ (said : List String) (later : Session) (own : List Instant) (notes : List Note),
    Life (ticks ++ own) later ∧ later.ownLog = ledger.enters log notes ∧
      ∀ l, answer l = .ok (said, later.overLog (ledger.enters l notes))

namespace Told

variable {ticks : List Instant} {s : Session} {log : Ledger} {x : Ledger → Session}

theorem plain (life : Life ticks s) (held : s.ownLog = log) (ends : ∀ l, x l = s.overLog l)
    {said : Ledger → List String} (same : ∀ l l', said l = said l') :
    Told ticks log fun l => .ok (said l, x l) := by
  refine ⟨said log, s, [], [], by rwa [List.append_nil], held, fun l => ?_⟩
  simp only [same l log, ends]
  rfl

theorem rest (life : Life ticks s) (said : List String) :
    Told ticks s.ownLog fun l => .ok (said, s.overLog l) :=
  plain life rfl (fun _ => rfl) fun _ _ => rfl

theorem run {go : Session → Except Halt (List String × Session)} (life : Life ticks s)
    (held : s.ownLog = log) (starts : ∀ l, x l = s.overLog l) (span : Span)
    (goes : ∀ own later, Life (ticks ++ own) later →
      Told (ticks ++ own) later.ownLog fun l => go (later.overLog l)) :
    Told ticks log fun l => (x l).runFor span >>= go := by
  obtain ⟨own, later, ran, passes⟩ := s.runFor_ends life.sound span
  obtain ⟨notes, same⟩ := Session.runWithin_alike _ ran
  have runs : ∀ l, (s.overLog l).runFor span = .ok (later.overLog (ledger.enters l notes)) := same
  -- The run of the session itself is the one with its own log.
  have kept : later.ownLog = ledger.enters log notes := by
    have here := runs s.ownLog
    rw [s.overLog_ownLog, ran] at here
    rw [Except.ok.inj here, ← held]
    exact later.ownLog_overLog s.ownLog notes
  obtain ⟨said, last, own', notes', life', held', carried⟩ :=
    goes own later (life.passes (Nat.min_le_right _ _) passes)
  refine ⟨said, last, own ++ own', notes ++ notes', by rwa [← List.append_assoc], ?_, fun l => ?_⟩
  · rw [held', kept, View.enters_append]
  · simp only [starts, runs, View.enters_append, ← carried]
    rfl

end Told

section Shown

variable (c : Controller World) (l : Ledger)

/-- The panel counts the entries of the journal, and its text does not show the count. -/
theorem panel_overLog : (overLog c l).panel = c.panel.map fun shown =>
    ({ shown.1 with events := l.journal.entries.length }, overLog c l) := by
  have counted : ∀ (b : RailBank) rails counts (p : Plant World),
      (Controller.countRails b rails counts (ledger.see l p)).1 =
        (Controller.countRails b rails counts p).1 := by
    intro b rails counts p
    induction rails generalizing counts with
    | nil => rfl
    | cons rail rest ih => simp only [Controller.countRails, ledger.status, status_plant, ih]
  have rows : (Controller.countRails (overLog c l).rig.rails (overLog c l).rig.rails.rails (0, 0, 0)
        (overLog c l).plant).1 =
      (Controller.countRails c.rig.rails c.rig.rails.rails (0, 0, 0) c.plant).1 := counted ..
  have fans : (overLog c l).fans.snapshots (overLog c l).plant = c.fans.snapshots c.plant := rfl
  simp only [Controller.panel, countRails_plant, rows, fans]
  cases c.fans.snapshots c.plant <;> rfl

theorem reportVoltage_overLog (r : Rig World) (rail : RailId) (row : Rail) :
    ((ledger.rig l r).reportVoltage rail row).1 = (r.reportVoltage rail row).1 := by
  have sampled : (ledger.rig l r).voltage rail =
      ((r.voltage rail).1, ledger.rig l (r.voltage rail).2) := by
    simp only [Rig.voltage, View.rig, ledger.voltage]
  simp only [Rig.reportVoltage, sampled]
  split
  · rfl
  · simp only [View.rig, ledger.enabled]

theorem report_overLog : (overLog c l).report.1 = c.report.1 := by
  have rows : ∀ rows (r : Rig World), (Rig.reportRows rows (ledger.rig l r)).1 =
      (Rig.reportRows rows r).1 := by
    intro rows r
    induction rows with
    | nil => rfl
    | cons entry rest ih =>
      have table : (ledger.rig l r).rails = r.rails := rfl
      simp only [Rig.reportRows, table]
      split
      · exact ih
      · simp only [reportVoltage_overLog, reportVoltage_rig, ih]
  exact congrArg (Rig.reportHeader ++ ·) (rows _ c.rig)

end Shown

section Commands

variable {ticks : List Instant} {s : Session} (life : Life ticks s)

include life

theorem tapPower_told (hold : Span) : Told ticks s.ownLog fun l => (s.overLog l).tapPower hold := by
  have changed : ∀ (s : Session) pressed l,
      (s.overLog l).onController (·.powerButtonChanged pressed (s.overLog l).now) =
        (s.onController (·.powerButtonChanged pressed s.now)).overLog l := by
    intro s pressed l
    cases pressed <;> rfl
  have kept : ∀ (s : Session) pressed,
      (s.onController (·.powerButtonChanged pressed s.now)).ownLog = s.ownLog := by
    intro s pressed
    cases pressed <;> rfl
  have pressed := life.deed (.powerButton true s.now) trivial rfl
  refine Told.run pressed (kept s true) (changed s true) hold fun _ held life => ?_
  have released := life.deed (.powerButton false held.now) trivial rfl
  exact .run released (kept held false) (changed held false) Session.idleStep fun _ _ life =>
    .plain life rfl (fun _ => rfl) fun _ _ => rfl

theorem tapReset_told : Told ticks s.ownLog fun l => (s.overLog l).tapReset := by
  have pressed := life.deed (.resetButton true s.now) trivial rfl
  refine Told.run pressed rfl (fun _ => rfl) Session.buttonTap fun _ held life => ?_
  have released := life.deed (.resetButton false held.now) trivial rfl
  exact .plain released rfl (fun _ => rfl) fun _ _ => rfl

theorem expireWatchdog_told : Told ticks s.ownLog fun l => (s.overLog l).expireWatchdog := by
  have expired := life.deed (.watchdog s.now) trivial rfl
  exact .run expired rfl (fun _ => rfl) Session.buttonTap fun _ _ life =>
    .plain life rfl (fun _ => rfl) fun _ _ => rfl

theorem run_told (span : Span) : Told ticks s.ownLog fun l => (s.overLog l).run span :=
  .run life rfl (fun _ => rfl) span fun _ _ life => .plain life rfl (fun _ => rfl) fun _ _ => rfl

theorem setTemperature_told (sensor celsius : String) :
    Told ticks s.ownLog fun l => .ok ((s.overLog l).setTemperature sensor celsius) := by
  simp only [Session.setTemperature]
  split
  · exact .rest life _
  · rename_i index _
    split
    · exact .rest life _
    · rename_i reading _
      have fitted : ∀ l, ((s.overLog l).world.setCelsius ⟨index⟩ reading).1 =
          (s.world.setCelsius ⟨index⟩ reading).1 := fun _ => rfl
      have set := life.deed (.outside fun w => (w.setCelsius ⟨index⟩ reading).2) (fun _ => rfl) rfl
      simp only [fitted]
      split
      · exact .plain set rfl (fun _ => rfl) fun _ _ => rfl
      · exact .rest life _

theorem injectFault_told (rail : String) (faulted : Bool) :
    Told ticks s.ownLog fun l => (s.overLog l).injectFault rail faulted := by
  have same : ∀ l, (s.overLog l).faultLine rail = s.faultLine rail := fun _ => rfl
  simp only [Session.injectFault, same]
  split
  · exact .rest life _
  · rename_i line _
    let pull (w : World) : World := if faulted then w.stickLow line else w.release line
    have time : ∀ w, (pull w).time = w.time := by
      intro w
      simp only [pull, World.stickLow]
      repeat' split
      all_goals rfl
    have asked : Life ticks
        ((s.withWorld (pull s.world)).onController (·.supplyFeedbackChanged)) :=
      (life.deed (.outside pull) time rfl).deed .feedback trivial rfl
    refine Told.run asked rfl (fun l => ?_) Session.idleStep fun _ _ life =>
      .plain life rfl (fun _ => rfl) fun _ _ => rfl
    have stuck : (s.overLog l).world.stuckLow = s.world.stuckLow := rfl
    simp only [pull, World.stickLow, stuck]
    repeat' split
    all_goals rfl

theorem pinFan_told (fan rpm : String) :
    Told ticks s.ownLog fun l => (s.overLog l).pinFan fan rpm := by
  have named : ∀ l, (s.overLog l).fan? fan = s.fan? fan := fun _ => rfl
  simp only [Session.pinFan, named]
  split
  · exact .rest life _
  · rename_i id _
    split
    · exact .rest life _
    · rename_i speed _
      have manual := (life.deed (.fan id (.follow false)) trivial rfl).deed (.fan id (.mode .rpm))
        trivial rfl
      obtain ⟨fans, aimed, applied⟩ := manual.sound.aimed id speed
      have set : ∀ l, (((s.overLog l).controller.fans.setFollowsDemand id false).setMode id
          .rpm).setTarget id speed = .ok fans := fun _ => aimed
      have pinned := manual.deed (.fan id (.target speed)) trivial applied
      simp only [set]
      exact .plain pinned rfl (fun _ => rfl) fun _ _ => rfl

theorem freeFan_told (fan : String) :
    Told ticks s.ownLog fun l => .ok ((s.overLog l).freeFan fan) := by
  have named : ∀ l, (s.overLog l).fan? fan = s.fan? fan := fun _ => rfl
  simp only [Session.freeFan, named]
  split
  · exact .rest life _
  · rename_i id _
    have freed := life.deed (.fan id (.follow true)) trivial rfl
    exact .plain freed rfl (fun _ => rfl) fun _ _ => rfl

theorem statusLines_told : Told ticks s.ownLog fun l => (s.overLog l).statusLines := by
  obtain ⟨shown, here⟩ := life.sound.ordered.panel
  let said := Text.lines (shown.1.text ++ "board t=" ++ s.now.text ++ " ap-reset=" ++
    Text.yesNo s.world.apReset ++ " power-button=" ++ Text.yesNo s.world.powerButton ++ "\n")
  have there : ∀ l, (s.overLog l).statusLines = .ok (said, s.overLog l) := by
    intro l
    have there := panel_overLog s.controller l
    rw [here] at there
    have shown' : (s.overLog l).controller.panel = _ := there
    simp only [Session.statusLines, shown']
    rfl
  simp only [there]
  exact .rest life said

theorem reportLines_told : Told ticks s.ownLog fun l => .ok (s.overLog l).reportLines := by
  simp only [Session.reportLines, report_controller]
  refine .plain life rfl (fun _ => rfl) fun l l' => ?_
  have text : ∀ l, (s.overLog l).controller.report.1 = s.controller.report.1 := report_overLog _
  simp only [text]

theorem timed_told (amount : String) {f : Session → Span → Except Halt (List String × Session)}
    (told : ∀ span, Told ticks s.ownLog fun l => f (s.overLog l) span) :
    Told ticks s.ownLog fun l => (s.overLog l).timed amount (f (s.overLog l)) := by
  simp only [Session.timed]
  split
  · exact .rest life _
  · exact told _

theorem perform_told (command : Command) :
    Told ticks s.ownLog fun l => (s.overLog l).perform command := by
  cases command with
  | help | helpOn | log | unknown => exact .rest life _
  | power => exact tapPower_told life _
  | hold amount => exact timed_told life amount (f := Session.tapPower) (tapPower_told life)
  | reset => exact tapReset_told life
  | watchdog => exact expireWatchdog_told life
  | temp sensor celsius => exact setTemperature_told life sensor celsius
  | fault rail => exact injectFault_told life rail true
  | clear rail => exact injectFault_told life rail false
  | fanRpm fan rpm => exact pinFan_told life fan rpm
  | fanAuto fan => exact freeFan_told life fan
  | run amount => exact timed_told life amount (f := Session.run) (run_told life)
  | status => exact statusLines_told life
  | supplies => exact reportLines_told life

theorem Life.performs (command : Command) :
    ∃ said later own notes, s.perform command = .ok (said, later) ∧ Life (ticks ++ own) later ∧
      ∀ l, (s.overLog l).perform command = .ok (said, later.overLog (ledger.enters l notes)) := by
  obtain ⟨said, later, own, notes, life', held, carried⟩ := perform_told life command
  have here : (s.overLog s.ownLog).perform command =
      .ok (said, later.overLog (ledger.enters s.ownLog notes)) := carried s.ownLog
  rw [← held, later.overLog_ownLog, s.overLog_ownLog] at here
  exact ⟨said, later, own, notes, here, life', carried⟩

end Commands

end BoardWarden.Emulator
