import BoardWarden.Chip.ControlTask
import BoardWarden.Proofs.Chip.Desk
import BoardWarden.Proofs.Controller.Calls

set_option autoImplicit false

namespace BoardWarden

namespace Desk

variable {σ : Type} [Board σ]

def Goes (d d' : Desk σ) : Prop := ∃ acts, d.run acts = .ok d'

namespace Goes

theorem refl (d : Desk σ) : Goes d d := ⟨[], rfl⟩

theorem one {d d' : Desk σ} (a : Act σ) (done : d.act a = .ok d') : Goes d d' :=
  ⟨[a], by simp only [Desk.run, done, Except.bind]⟩

theorem trans {d d' d'' : Desk σ} (h : Goes d d') (h' : Goes d' d'') : Goes d d'' := by
  obtain ⟨acts, ran⟩ := h
  obtain ⟨acts', ran'⟩ := h'
  refine ⟨acts ++ acts', ?_⟩
  induction acts generalizing d with
  | nil =>
    cases ran
    exact ran'
  | cons a rest ih =>
    cases done : d.act a with
    | error halt => simp [Desk.run, done, Except.bind] at ran
    | ok next =>
      simp only [Desk.run, done, Except.bind, List.cons_append] at ran ⊢
      exact ih ran

end Goes

theorem receive_all (d : Desk σ) : ∃ accepted, Goes d
    { d with
      inbox := d.inbox.drain.2
      controller := d.controller.acceptAll d.inbox.drain.1
      accepted } := by
  obtain ⟨power, reset, ⟨waiting, dropped⟩, controller, changes, accepted⟩ := d
  induction waiting generalizing controller accepted with
  | nil => exact ⟨accepted, .refl _⟩
  | cons event rest ih =>
    obtain ⟨accepted', goes⟩ :=
      ih (controller.accept event controller.now) (event.level?.toList ++ accepted)
    exact ⟨accepted', (Goes.one .receive rfl).trans goes⟩

structure Fronts (d : Desk Chip) (c : Chip) : Prop where
  power : d.power = c.power
  reset : d.reset = c.reset
  inbox : d.inbox = c.inbox

end Desk

namespace Chip

open Desk (Act Goes Fronts)

def Watches (c c' : Chip) : Prop :=
  ∀ d : Desk Chip, d.Fronts c → ∃ d', Goes d d' ∧ d'.Fronts c' ∧ d'.controller = d.controller

namespace Watches

theorem of_same {c c' : Chip} (power : c'.power = c.power) (reset : c'.reset = c.reset)
    (inbox : c'.inbox = c.inbox) : Watches c c' := fun d h =>
  ⟨d, .refl d, ⟨h.power.trans power.symm, h.reset.trans reset.symm, h.inbox.trans inbox.symm⟩, rfl⟩

theorem refl (c : Chip) : Watches c c := of_same rfl rfl rfl

theorem trans {c c' c'' : Chip} (h : Watches c c') (h' : Watches c' c'') : Watches c c'' := by
  intro d fronts
  obtain ⟨d', goes, fronts', same⟩ := h d fronts
  obtain ⟨d'', goes', fronts'', same'⟩ := h' d' fronts'
  exact ⟨d'', goes.trans goes', fronts'', same'.trans same⟩

end Watches

theorem say_front (c : Chip) (body : String) : (c.say body).power = c.power ∧
    (c.say body).reset = c.reset ∧ (c.say body).inbox = c.inbox := by
  unfold say
  split <;> exact ⟨rfl, rfl, rfl⟩

theorem say_watches (c : Chip) (body : String) : Watches c (c.say body) :=
  have ⟨power, reset, inbox⟩ := c.say_front body
  .of_same power reset inbox

theorem sayAll_watches (c : Chip) (bodies : List String) : Watches c (c.sayAll bodies) := by
  induction bodies generalizing c with
  | nil => exact .refl c
  | cons body rest ih => exact (c.say_watches body).trans (ih _)

theorem post_front (c : Chip) (event : ControlEvent) : (c.post event).power = c.power ∧
    (c.post event).reset = c.reset ∧ (c.post event).inbox = (c.inbox.post event).2 := by
  simp only [post]
  split
  · exact ⟨rfl, rfl, rfl⟩
  · exact say_front _ _

theorem post_fronts {d : Desk Chip} {c : Chip} (h : d.Fronts c) (event : ControlEvent) :
    (d.post event).Fronts (c.post event) := by
  obtain ⟨power, reset, inbox⟩ := c.post_front event
  exact ⟨h.power.trans power.symm, h.reset.trans reset.symm, by rw [inbox, Desk.post, h.inbox]⟩

variable (c : Chip)

theorem lookAtPower_watches (edges : List Edge) : Watches c (c.lookAtPower edges) := by
  intro d h
  let edge := edges.any (·.pin = .power)
  let pressed := c.pins.interruptLow .power
  cases looked : c.power.look edge pressed c.now with | mk answer w =>
  have looked' : d.power.look edge pressed c.now = (answer, w) := by rw [h.power, looked]
  have moved : ({ d with power := w } : Desk Chip).Fronts { c with power := w } :=
    ⟨rfl, h.reset, h.inbox⟩
  have chip : c.lookAtPower edges = { c with power := w }.postSome (answer.map .powerButton) := by
    simp only [lookAtPower]
    rw [looked]
  rw [chip]
  cases answer with
  | none =>
    refine ⟨{ d with power := w }, .one (.lookAtPower edge pressed c.now) ?_, moved, rfl⟩
    simp only [Desk.act, looked']
  | some level =>
    refine ⟨{ d with power := w }.report level, .one (.lookAtPower edge pressed c.now) ?_, ?_, rfl⟩
    · simp only [Desk.act, looked']
    · have posted := post_fronts moved (.powerButton level)
      exact ⟨posted.power, posted.reset, posted.inbox⟩

theorem lookAtReset_watches (edges : List Edge) : Watches c (c.lookAtReset edges) := by
  intro d h
  let edge := edges.any (·.pin = .reset)
  let pressed := c.pins.interruptLow .reset
  cases looked : c.reset.look edge pressed c.now with | mk answer w =>
  have looked' : d.reset.look edge pressed c.now = (answer, w) := by rw [h.reset, looked]
  have moved : ({ d with reset := w } : Desk Chip).Fronts { c with reset := w } :=
    ⟨h.power, rfl, h.inbox⟩
  have chip : c.lookAtReset edges = { c with reset := w }.postSome (answer.map .resetButton) := by
    simp only [lookAtReset]
    rw [looked]
  rw [chip]
  cases answer with
  | none =>
    refine ⟨{ d with reset := w }, .one (.lookAtReset edge pressed c.now) ?_, moved, rfl⟩
    simp only [Desk.act, looked']
  | some level =>
    refine ⟨{ d with reset := w }.post (.resetButton level),
      .one (.lookAtReset edge pressed c.now) ?_, post_fronts moved (.resetButton level), rfl⟩
    simp only [Desk.act, looked']

theorem lookAtFault_watches (edges : List Edge) : Watches c (c.lookAtFault edges) := by
  simp only [lookAtFault]
  split
  · intro d h
    exact ⟨d.post .supplyFeedback, .one .fault rfl, post_fronts h .supplyFeedback, rfl⟩
  · exact .refl c

theorem look_watches (edges : List Edge) : Watches c (c.look edges) :=
  (((c.lookAtPower_watches edges).trans (lookAtReset_watches _ edges)).trans
    (lookAtFault_watches _ edges)).trans (.of_same rfl rfl rfl)

theorem stimulate_watches (stimuli : List Stimulus) : Watches c (stimulate stimuli c).2 := by
  induction stimuli generalizing c with
  | nil => exact .refl c
  | cons stimulus rest ih =>
    have changed : Watches c (c.changePins stimulus.change).2 := .of_same rfl rfl rfl
    exact changed.trans (ih _)

theorem moment_watches (time : Instant) : Watches c (c.moment time) := by
  let due := c.stimuli.takeWhile fun s => decide (s.time.micros ≤ time.micros)
  have begun : Watches c { c with now := time, stimuli := c.stimuli.drop due.length } :=
    .of_same rfl rfl rfl
  exact (begun.trans (stimulate_watches _ due)).trans (look_watches _ _)

theorem passWithin_watches (stop : Instant) (count : Nat) : Watches c (passWithin stop count c) := by
  induction count generalizing c with
  | zero => exact .refl c
  | succ count ih =>
    simp only [passWithin]
    split
    · exact .refl c
    · split
      · exact (c.moment_watches _).trans (ih _)
      · exact .refl c

theorem runTo_watches (stop : Instant) : Watches c (c.runTo stop) :=
  (c.passWithin_watches _ _).trans (.of_same rfl rfl rfl)

theorem halt_watches (reason : Halt) : Watches c (c.halt reason) := by
  simp only [halt]
  split
  · exact .refl c
  · exact .of_same rfl rfl rfl

theorem sample_watches (channel : Channel) : Watches c (c.sample channel).2 := by
  simp only [sample]
  split
  · exact c.halt_watches _
  · exact .of_same rfl rfl rfl

/-- While a call is made, nothing happens at the desk but the work of the watches. -/
theorem call_watches (call : Call) : Watches c (call.run c) := by
  have written : ∀ name level, Watches c (c.writePin name level) := by
    intro name level
    have wrote : Watches c { c with pins := c.pins.write name level c.now } := .of_same rfl rfl rfl
    exact wrote.trans (say_watches _ _)
  have fan : ∀ fan body, Watches c (c.sayFan fan body) := by
    intro fan body
    simp only [sayFan]
    split
    · exact c.say_watches _
    · exact .refl c
  cases call with
  | sleep span => exact c.runTo_watches _
  | readLine line => exact .refl c
  | readKelvin sensor => exact .refl c
  | readMillivolts channel => exact c.sample_watches channel
  | driveLine line level =>
    change Watches c (c.write line level).2
    simp only [write]
    split
    · exact written _ _
    · exact .refl c
  | setDuty index percent => exact fan _ _
  | setOutput index on => exact fan _ _
  | notify event => exact c.say_watches _
  | setIdleSleep allowed => exact c.say_watches _
  | setApReset asserted => exact written _ _
  | setPowerButton pressed => exact written _ _
  | clearPeriod index =>
    change Watches c (c.clearPeriod index)
    simp only [clearPeriod]
    split
    · exact .of_same rfl rfl rfl
    · exact .of_same rfl rfl rfl
    · exact .refl c

theorem called_watches {c c' : Chip} (h : Called c c') : Watches c c' := by
  induction h with
  | none => exact .refl c
  | next call _ ih => exact ih.trans (call_watches _ call)

/-- A wait ends with the work of the watches done, and with an event taken or not. -/
theorem await_watches (second : Instant) (deadline : Option Instant) (count : Nat) :
    let woken := ControlTask.await second deadline count c
    (∃ event inbox c', woken = (.event event, { c' with inbox }) ∧ Watches c c' ∧
        c'.inbox.receive = some (event, inbox)) ∨
      ((∀ event, woken.1 ≠ .event event) ∧ Watches c woken.2) := by
  induction count generalizing c with
  | zero => exact .inr ⟨nofun, .refl c⟩
  | succ count ih =>
    simp only [ControlTask.await]
    split
    · rename_i event inbox received
      exact .inl ⟨event, inbox, c, rfl, .refl c, received⟩
    · split
      · exact .inr ⟨nofun, .refl c⟩
      · split
        · exact .inr ⟨nofun, .refl c⟩
        · split
          · exact .inr ⟨nofun, .of_same rfl rfl rfl⟩
          · generalize (⟨_⟩ : Instant) = time
            rcases ih (c.moment time) with ⟨event, inbox, c', woken, watched, received⟩ | ⟨other, watched⟩
            · exact .inl ⟨event, inbox, c', woken, (c.moment_watches time).trans watched, received⟩
            · exact .inr ⟨other, (c.moment_watches time).trans watched⟩

end Chip

namespace ControlTask

open Desk (Act Goes Fronts)

/-- The desk shows the controller of the task and the watches and the inbox of its chip. -/
structure ShownBy (t : ControlTask) (d : Desk Chip) : Prop where
  front : d.Fronts t.chip
  controller : d.controller = t.controller

def Leads (t t' : ControlTask) : Prop := ∀ d, t.ShownBy d → ∃ d', Goes d d' ∧ t'.ShownBy d'

namespace Leads

theorem refl (t : ControlTask) : Leads t t := fun d shown => ⟨d, .refl d, shown⟩

theorem trans {t t' t'' : ControlTask} (h : Leads t t') (h' : Leads t' t'') : Leads t t'' := by
  intro d shown
  obtain ⟨d', goes, shown'⟩ := h d shown
  obtain ⟨d'', goes', shown''⟩ := h' d' shown'
  exact ⟨d'', goes.trans goes', shown''⟩

/-- Work on the controller, with the work of the watches that its calls gave time for. -/
theorem work {t t' : ControlTask} (input : Controller.Input Chip)
    (apart : input.isPowerButton = false) (applied : t.controller.apply input = .ok t'.controller)
    (watched : Chip.Watches t.chip t'.chip) : Leads t t' := by
  intro d shown
  let d' : Desk Chip := { d with controller := t'.controller }
  have done : d.act (.work input apart) = .ok d' := by
    simp only [Desk.act, shown.controller, applied, Except.map, d']
  obtain ⟨d'', goes, fronts, same⟩ := watched d' ⟨shown.front.power, shown.front.reset, shown.front.inbox⟩
  exact ⟨d'', (Goes.one _ done).trans goes, fronts, same⟩

theorem outside {t : ControlTask} {c : Chip} (watched : Chip.Watches t.chip c) :
    Leads t (t.onChip fun _ => c) :=
  .work (.outside fun _ => c) rfl rfl watched

theorem called {t t' : ControlTask} (input : Controller.Input Chip)
    (apart : input.isPowerButton = false) (inside : ∀ change, input ≠ .outside change)
    (applied : t.controller.apply input = .ok t'.controller) : Leads t t' :=
  .work input apart applied (Chip.called_watches (t.controller.apply_called input inside applied))

end Leads

theorem accept_board (c : Controller Chip) (event : ControlEvent) (now : Instant) :
    (c.accept event now).board = c.board := by
  cases event with
  | powerButton pressed => cases pressed <;> rfl
  | resetButton pressed => cases pressed <;> rfl
  | supplyFeedback => rfl

theorem acceptAll_board (c : Controller Chip) (events : List ControlEvent) :
    (c.acceptAll events).board = c.board := by
  induction events generalizing c with
  | nil => rfl
  | cons event rest ih => exact (ih _).trans (accept_board c event c.now)

variable (t : ControlTask)

theorem drain_leads :
    let emptied := t.onChip ({ · with inbox := t.chip.inbox.drain.2 })
    Leads t { emptied with controller := emptied.controller.acceptAll t.chip.inbox.drain.1 } := by
  intro emptied d shown
  have handed : d.act (.work (.outside ({ · with inbox := t.chip.inbox.drain.2 })) rfl) =
      .ok { d with controller := emptied.controller } := by
    simp only [Desk.act, Controller.apply, Except.map, shown.controller]
    rfl
  obtain ⟨accepted, goes⟩ := Desk.receive_all { d with controller := emptied.controller }
  have board : (emptied.controller.acceptAll t.chip.inbox.drain.1).board =
      { t.chip with inbox := t.chip.inbox.drain.2 } := acceptAll_board _ _
  refine ⟨_, (Goes.one _ handed).trans goes, ⟨?_, ?_, ?_⟩, ?_⟩
  · exact shown.front.power.trans (congrArg Chip.power board).symm
  · exact shown.front.reset.trans (congrArg Chip.reset board).symm
  · exact (congrArg (fun q => q.drain.2) shown.front.inbox).trans (congrArg Chip.inbox board).symm
  · exact congrArg (fun q => emptied.controller.acceptAll q.drain.1) shown.front.inbox

theorem step_leads : Leads t t.step := by
  let emptied := t.onChip ({ · with inbox := t.chip.inbox.drain.2 })
  let accepted : ControlTask :=
    { emptied with controller := emptied.controller.acceptAll t.chip.inbox.drain.1 }
  let polled : ControlTask := { accepted with controller := accepted.controller.pollDeferred.2 }
  have drained : Leads t accepted := t.drain_leads
  have worked : Leads accepted polled := .called .poll rfl nofun rfl
  have stepped : Leads polled t.step := .called .step rfl nofun rfl
  exact (drained.trans worked).trans stepped

theorem say_leads (body : String) : Leads t (t.onChip (·.say body)) :=
  .outside (t.chip.say_watches body)

theorem showStatus_leads {t' : ControlTask} (done : t.showStatus = .ok t') : Leads t t' := by
  obtain ⟨panel, looked, rfl⟩ := map_ok done
  obtain ⟨b, called, same⟩ := t.controller.panel_called looked
  have asked : Leads t { t with controller := panel.2 } := by
    rw [same]
    exact .outside (Chip.called_watches called)
  let shown : ControlTask := { t with controller := panel.2 }.onChip
    (·.sayAll (Console.statusLines panel.1))
  have said : Leads t shown := asked.trans (.outside (Chip.sayAll_watches _ _))
  dsimp only
  split
  · exact said
  · exact said.trans (shown.say_leads _)

theorem tick_leads {t' : ControlTask} (ticked : t.tick = .ok t') : Leads t t' := by
  simp only [tick] at ticked
  split at ticked
  · cases ticked
  · rename_i answer controller done
    let next : ControlTask :=
      { controller, nextSecond := t.nextSecond.after second, seconds := t.seconds + 1 }
    have worked : Leads t next := .called .tick rfl nofun (by simp only [Controller.apply, done]; rfl)
    split at ticked
    · exact worked.trans (next.showStatus_leads ticked)
    · cases ticked
      exact worked

/-- The event that a wait ends with is taken from the inbox and handed to the controller. -/
theorem event_leads {event : ControlEvent} {inbox : Inbox} {c : Chip}
    (watched : Chip.Watches t.chip c) (received : c.inbox.receive = some (event, inbox)) :
    let woken := t.onChip fun _ => { c with inbox }
    Leads t { woken with controller := woken.controller.accept event woken.controller.now } := by
  intro woken d shown
  obtain ⟨d', goes, front, same⟩ := watched d shown.front
  have handed : d'.act (.work (.outside fun _ => { c with inbox }) rfl) =
      .ok { d' with controller := woken.controller } := by
    simp only [Desk.act, Controller.apply, Except.map, same, shown.controller]
    rfl
  have taken : ({ d' with controller := woken.controller } : Desk Chip).act .receive =
      .ok { d' with
        inbox
        controller := woken.controller.accept event woken.controller.now
        accepted := event.level?.toList ++ d'.accepted } := by
    simp only [Desk.act, Desk.receive, front.inbox, received]
  have board : (woken.controller.accept event woken.controller.now).board = { c with inbox } :=
    accept_board _ _ _
  refine ⟨_, (goes.trans (.one _ handed)).trans (.one _ taken), ⟨?_, ?_, ?_⟩, rfl⟩
  · exact front.power.trans (congrArg Chip.power board).symm
  · exact front.reset.trans (congrArg Chip.reset board).symm
  · exact (congrArg Chip.inbox board).symm

theorem turn_leads {t' : ControlTask} (turned : t.turn = .ok t') : Leads t t' := by
  have stepped := t.step_leads
  simp only [turn] at turned
  split at turned
  · have waited := t.step.chip.await_watches t.step.nextSecond t.step.controller.agenda.nextDeadline
      (t.step.chip.momentBound + 2)
    generalize await _ _ _ _ = woken at turned waited
    rcases waited with ⟨event, inbox, c, rfl, watched, received⟩ | ⟨other, watched⟩
    · cases turned
      exact stepped.trans (t.step.event_leads watched received)
    · have idle : Leads t (t.step.onChip fun _ => woken.2) := stepped.trans (.outside watched)
      cases wake : woken.1 with
      | event event => exact absurd wake (other event)
      | second =>
        rw [wake] at turned
        exact idle.trans (tick_leads _ turned)
      | _ =>
        rw [wake] at turned
        cases turned
        exact idle
  · cases turned
    exact stepped

theorem runWithin_leads {t' : ControlTask} (count : Nat) (ran : runWithin count t = .ok t') :
    Leads t t' := by
  induction count generalizing t with
  | zero =>
    cases ran
    exact .refl _
  | succ count ih =>
    simp only [runWithin] at ran
    split at ran
    · cases ran
    · split at ran
      · cases ran
        exact .refl _
      · split at ran
        · cases ran
        · rename_i next turned
          exact (turn_leads _ turned).trans (ih next ran)

/-- The tasks of the chip run at a desk: up to any turn of the control task there is an order of their
steps that leads to the same watches, the same inbox and the same controller. -/
theorem run_at_desk (flags : ResetFlags) (wired : Bool) (change : PinsChange)
    (rails : List SampledRail) (stimuli : List Stimulus) (horizon : Instant) (count : Nat)
    {t : ControlTask}
    (ran : runWithin count (start flags (Chip.fresh wired change rails stimuli horizon)) = .ok t) :
    let chip := Chip.fresh wired change rails stimuli horizon
    ∃ acts d, (Desk.start (Controller.fresh Carrier.layout Carrier.fanCount config chip)
        chip.power.pressed chip.reset.pressed).run acts = .ok d ∧ t.ShownBy d := by
  intro chip
  let asleep : ControlTask :=
    { controller := Controller.fresh Carrier.layout Carrier.fanCount config chip
      nextSecond := Instant.zero
      seconds := 0 }
  have shown : asleep.ShownBy (Desk.start asleep.controller chip.power.pressed chip.reset.pressed) :=
    ⟨⟨rfl, rfl, rfl⟩, rfl⟩
  have started : Leads asleep (start flags chip) := by
    let awake : ControlTask :=
      { controller := asleep.controller.init Settings.Store.empty flags
        nextSecond := (asleep.controller.init Settings.Store.empty flags).now.after second
        seconds := 0 }
    have worked : Leads asleep awake := .called (.init Settings.Store.empty flags) rfl nofun rfl
    exact worked.trans (awake.say_leads _)
  obtain ⟨d, ⟨acts, ran'⟩, shown'⟩ := (started.trans (runWithin_leads _ count ran)) _ shown
  exact ⟨acts, d, ran', shown'⟩

/-- A forced shutdown is pending only for a button that is held, once the inbox is empty and while no
event was dropped. -/
theorem held_while_pending (flags : ResetFlags) (wired : Bool) (change : PinsChange)
    (rails : List SampledRail) (stimuli : List Stimulus) (horizon : Instant) (count : Nat)
    {t : ControlTask}
    (ran : runWithin count (start flags (Chip.fresh wired change rails stimuli horizon)) = .ok t)
    (empty : t.chip.inbox.waiting = []) (counted : t.chip.inbox.dropped = 0)
    (armed : t.controller.agenda.isPending .forceShutdown = true) : t.chip.power.pressed = true := by
  obtain ⟨acts, d, ran', shown⟩ := run_at_desk flags wired change rails stimuli horizon count ran
  have h := (Desk.Tallies.start _ _ _ _ _ _).run acts ran'
  have last : d.accepted.head? = some true := h.armed (shown.controller ▸ armed)
  have held : true = d.power.pressed := by
    rw [h.last_accepted (shown.front.inbox ▸ empty) last, (h.none_lost (shown.front.inbox ▸ counted)).2]
    exact Even.zero
  rw [← shown.front.power]
  exact held.symm

end ControlTask

end BoardWarden
